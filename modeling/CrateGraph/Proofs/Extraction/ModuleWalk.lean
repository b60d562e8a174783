import CrateGraph.Proofs.Extraction.Declarations
import Mathlib.Data.List.Chain
import Mathlib.Data.List.Nodup
import Mathlib.Logic.Relation

/-!
The walk through the modules, and the chains of modules that it follows.

The walk remembers only the modules that it is inside of, so it may come to one module many times
and by many ways. Each of its stops belongs to one chain of distinct modules from the root on, and
each such chain leads to a stop. What the walk says is therefore what it says at the ends of these
chains.
-/

namespace CrateGraph

namespace Extraction

/-! ### Chains of modules -/

def moduleBody? (extraction : Extraction) (id : ItemId) : Option ModuleBody :=
  (extraction.item? id).bind fun item =>
    match item.body with
    | .module body => some body
    | _ => none

/-- The name that a module has in the paths of what it holds. -/
def moduleName (extraction : Extraction) (id : ItemId) : String :=
  ((extraction.item? id).bind Item.properName?).getD unnamedModule

/-- Is the second id among the items of the module with the first? -/
def Lists (extraction : Extraction) (outer inner : ItemId) : Prop :=
  ∃ body, extraction.moduleBody? outer = some body ∧ inner ∈ body.items

/-- Distinct modules from the root on, each listed by the one before it. -/
structure ModuleChain (extraction : Extraction) (ids : List ItemId) : Prop where
  fromRoot : ids.head? = some extraction.crate.root
  distinct : ids.Nodup
  isModule : ∀ id ∈ ids, (extraction.moduleBody? id).isSome
  listed : ids.IsChain extraction.Lists

/-- The path of a chain: the name of the crate and those of the modules after the root. -/
def chainPath (extraction : Extraction) (ids : List ItemId) : String :=
  String.intercalate pathSeparator
    (extraction.crateName :: ids.tail.map extraction.moduleName)

/-! ### The stops of the walk -/

/-- A module, its path, and the modules that the walk is inside of there, innermost first. -/
structure Stop where
  active : List ItemId
  id : ItemId
  path : String

/-- The walk goes on from a stop to a module listed there that it is not inside of. -/
structure Descends (extraction : Extraction) (outer inner : Stop) : Prop where
  listed : extraction.Lists outer.id inner.id
  isModule : (extraction.moduleBody? inner.id).isSome
  active_eq : inner.active = outer.id :: outer.active
  fresh : inner.id ∉ inner.active
  path_eq : inner.path = extendPath outer.path (extraction.moduleName inner.id)

def rootStop (extraction : Extraction) : Stop :=
  ⟨[], extraction.crate.root, extraction.crateName⟩

/-- What the walk says at a stop, the modules further inside and log records left out. -/
def stopEntries (extraction : Extraction) (stop : Stop) : List Entry :=
  match extraction.item? stop.id with
  | none => []
  | some item =>
      match item.body with
      | .module body =>
          (if stop.id = extraction.crate.root then []
            else [.module stop.path (extraction.moduleNode stop.path item)]) ++
          body.items.flatMap fun child =>
            match extraction.item? child with
            | none => []
            | some childItem => extraction.itemEntries childItem stop.path
      | _ => []

theorem moduleBody?_eq_some_iff (extraction : Extraction) (id : ItemId) (body : ModuleBody) :
    extraction.moduleBody? id = some body ↔
      ∃ item, extraction.item? id = some item ∧ item.body = .module body := by
  rw [moduleBody?, Option.bind_eq_some_iff]
  constructor
  · intro holding
    rcases holding with ⟨item, found, holds⟩
    refine ⟨item, found, ?_⟩
    split at holds
    · next inner equal =>
        rw [equal, Option.some.inj holds]
    · cases holds
  · intro holding
    rcases holding with ⟨item, found, equal⟩
    refine ⟨item, found, ?_⟩
    rw [equal]

theorem itemEntries_of_module (extraction : Extraction) {item : Item} {body : ModuleBody}
    (isModule : item.body = .module body) (path : String) :
    extraction.itemEntries item path = [] := by
  unfold itemEntries
  rw [isModule]
  rfl

/-! ### What the walk says is what it says at its stops -/

theorem mem_stopEntries_iff (extraction : Extraction) (stop : Stop) (entry : Entry) :
    entry ∈ extraction.stopEntries stop ↔
      ∃ item body, extraction.item? stop.id = some item ∧ item.body = .module body ∧
        ((stop.id ≠ extraction.crate.root ∧
            entry = .module stop.path (extraction.moduleNode stop.path item)) ∨
          ∃ child ∈ body.items, ∃ childItem, extraction.item? child = some childItem ∧
            entry ∈ extraction.itemEntries childItem stop.path) := by
  constructor
  · intro member
    unfold stopEntries at member
    split at member
    · cases member
    · next item found =>
        split at member
        · next body isModule =>
            refine ⟨item, body, found, isModule, ?_⟩
            rcases List.mem_append.mp member with node | inside
            · left
              split at node
              · cases node
              · next inner => exact ⟨inner, List.mem_singleton.mp node⟩
            · right
              rcases List.mem_flatMap.mp inside with ⟨child, listed, fromChild⟩
              split at fromChild
              · cases fromChild
              · next childItem childFound =>
                  exact ⟨child, listed, childItem, childFound, fromChild⟩
        · cases member
  · intro described
    rcases described with ⟨item, body, found, isModule, reason⟩
    unfold stopEntries
    simp only [found, isModule, List.mem_append, List.mem_flatMap]
    rcases reason with ⟨inner, rfl⟩ | ⟨child, listed, childItem, childFound, own⟩
    · left
      rw [if_neg inner]
      exact List.mem_singleton.mpr rfl
    · right
      refine ⟨child, listed, ?_⟩
      rw [childFound]
      exact own

/-- What the walk says of an item that the module with the path lists. -/
def childEntries (extraction : Extraction) (active : List ItemId) (path : String)
    (child : ItemId) : List Entry :=
  match extraction.item? child with
  | none =>
      [logEntry .debug ("Item " ++ child ++ " in " ++ path ++ " not in index, skipping")]
  | some item =>
      match item.body with
      | .module _ =>
          extraction.moduleEntries active child
            (extendPath path (item.properName?.getD unnamedModule))
      | _ => extraction.itemEntries item path

theorem moduleEntries_eq (extraction : Extraction) (active : List ItemId) (id : ItemId)
    (path : String) :
    extraction.moduleEntries active id path =
      match extraction.item? id with
      | none => [logEntry .warning ("Module " ++ id ++ " (" ++ path ++ ") not found in index")]
      | some item =>
          match item.body with
          | .module body =>
              if id ∈ active then
                [logEntry .warning
                  ("Module cycle detected at " ++ path ++ ", not descending again")]
              else
                (if id = extraction.crate.root then []
                  else [.module path (extraction.moduleNode path item)]) ++
                body.items.flatMap (extraction.childEntries (id :: active) path)
          | _ => [] := by
  rw [moduleEntries]
  split
  · next missing => simp only [missing]
  · next item found =>
      simp only [found]
      cases item.body with
      | module body => exact dite_eq_ite
      | _ => rfl

/-- What is to be shown of every module may be assumed of the modules that a walk comes to one
module further inside, for it enters none that it is inside of. -/
theorem walk_induction (extraction : Extraction) {holds : List ItemId → ItemId → String → Prop}
    (step : ∀ active id path,
      (∀ item, extraction.item? id = some item → id ∉ active →
        ∀ inner innerPath, holds (id :: active) inner innerPath) → holds active id path)
    (active : List ItemId) (id : ItemId) (path : String) : holds active id path := by
  apply step
  intro item found outside inner innerPath
  exact extraction.walk_induction step (id :: active) inner innerPath
termination_by extraction.idleModules active
decreasing_by exact extraction.idleModules_lt found outside

/-- Everything that the walk can say, log records left out, when it comes to a module. -/
theorem mem_moduleEntries_iff (extraction : Extraction) {entry : Entry}
    (said : ∀ record, entry ≠ .log record) (active : List ItemId) (id : ItemId) (path : String) :
    entry ∈ extraction.moduleEntries active id path ↔
      id ∉ active ∧ ∃ item body, extraction.item? id = some item ∧ item.body = .module body ∧
        ((id ≠ extraction.crate.root ∧
            entry = .module path (extraction.moduleNode path item)) ∨
          ∃ child ∈ body.items, ∃ childItem, extraction.item? child = some childItem ∧
            (entry ∈ extraction.itemEntries childItem path ∨
              ∃ childBody, childItem.body = .module childBody ∧
                entry ∈ extraction.moduleEntries (id :: active) child
                  (extendPath path (childItem.properName?.getD unnamedModule)))) := by
  have notLog : ∀ level message, entry ∉ [logEntry level message] := by
    intro level message member
    exact said _ (List.mem_singleton.mp member)
  constructor
  · intro member
    rw [moduleEntries] at member
    split at member
    · exact absurd member (notLog _ _)
    · next item found =>
        split at member
        · next body isModule =>
            split at member
            · exact absurd member (notLog _ _)
            · next fresh =>
                refine ⟨fresh, item, body, found, isModule, ?_⟩
                rcases List.mem_append.mp member with node | inside
                · left
                  split at node
                  · cases node
                  · next inner => exact ⟨inner, List.mem_singleton.mp node⟩
                · right
                  rcases List.mem_flatMap.mp inside with ⟨child, listed, fromChild⟩
                  split at fromChild
                  · exact absurd fromChild (notLog _ _)
                  · next childItem childFound =>
                      refine ⟨child, listed, childItem, childFound, ?_⟩
                      split at fromChild
                      · next childBody childIsModule =>
                          exact Or.inr ⟨childBody, childIsModule, fromChild⟩
                      · exact Or.inl fromChild
        · cases member
  · intro described
    rcases described with ⟨fresh, item, body, found, isModule, reason⟩
    rw [moduleEntries]
    split
    · next missing =>
        rw [missing] at found
        cases found
    · next other otherFound =>
        obtain rfl : other = item := Option.some.inj (otherFound.symm.trans found)
        rw [isModule]
        simp only [dif_neg fresh, List.mem_append, List.mem_flatMap]
        rcases reason with ⟨inner, rfl⟩ | ⟨child, listed, childItem, childFound, fromChild⟩
        · left
          rw [if_neg inner]
          exact List.mem_singleton.mpr rfl
        · right
          refine ⟨child, listed, ?_⟩
          simp only [childFound]
          rcases fromChild with own | ⟨childBody, childIsModule, deeper⟩
          · split
            · next childBody childIsModule =>
                rw [extraction.itemEntries_of_module childIsModule] at own
                cases own
            · exact own
          · rw [childIsModule]
            exact deeper

theorem moduleName_of_found (extraction : Extraction) {id : ItemId} {item : Item}
    (found : extraction.item? id = some item) :
    extraction.moduleName id = item.properName?.getD unnamedModule := by
  rw [moduleName, found]
  rfl

theorem exists_stop_of_mem_moduleEntries (extraction : Extraction) {entry : Entry}
    (said : ∀ record, entry ≠ .log record) (active : List ItemId) (id : ItemId) (path : String)
    (member : entry ∈ extraction.moduleEntries active id path) :
    ∃ stop, Relation.ReflTransGen extraction.Descends ⟨active, id, path⟩ stop ∧
      entry ∈ extraction.stopEntries stop := by
  induction active, id, path using moduleEntries.induct extraction with
  | case1 active id path missing =>
      rcases (extraction.mem_moduleEntries_iff said _ _ _).mp member with ⟨_, item, _, found, _⟩
      rw [missing] at found
      cases found
  | case2 active id path item found body isModule inside =>
      exact absurd inside ((extraction.mem_moduleEntries_iff said _ _ _).mp member).1
  | case3 active id path item found body isModule fresh induction =>
      rcases (extraction.mem_moduleEntries_iff said _ _ _).mp member with
        ⟨_, other, otherBody, otherFound, otherIsModule, reason⟩
      have self : Relation.ReflTransGen extraction.Descends ⟨active, id, path⟩ ⟨active, id, path⟩ :=
        .refl
      rcases reason with node | ⟨child, listed, childItem, childFound, own | deeper⟩
      · refine ⟨_, self, (extraction.mem_stopEntries_iff _ _).mpr ?_⟩
        exact ⟨other, otherBody, otherFound, otherIsModule, Or.inl node⟩
      · refine ⟨_, self, (extraction.mem_stopEntries_iff _ _).mpr ?_⟩
        exact ⟨other, otherBody, otherFound, otherIsModule,
          Or.inr ⟨child, listed, childItem, childFound, own⟩⟩
      · rcases deeper with ⟨childBody, childIsModule, deeper⟩
        rcases induction child childItem deeper with ⟨stop, reached, own⟩
        have childFresh := ((extraction.mem_moduleEntries_iff said _ _ _).mp deeper).1
        refine ⟨stop, .head ?_ reached, own⟩
        exact {
          listed := ⟨otherBody,
            (extraction.moduleBody?_eq_some_iff _ _).mpr ⟨other, otherFound, otherIsModule⟩, listed⟩
          isModule := Option.isSome_of_eq_some
            ((extraction.moduleBody?_eq_some_iff _ _).mpr ⟨childItem, childFound, childIsModule⟩)
          active_eq := rfl
          fresh := childFresh
          path_eq := by rw [extraction.moduleName_of_found childFound] }
  | case4 active id path item found notModule =>
      rcases (extraction.mem_moduleEntries_iff said _ _ _).mp member with
        ⟨_, other, body, otherFound, isModule, _⟩
      obtain rfl : item = other := Option.some.inj (found.symm.trans otherFound)
      exact absurd isModule (notModule body)

theorem mem_moduleEntries_of_stop (extraction : Extraction) {entry : Entry}
    (said : ∀ record, entry ≠ .log record) {first stop : Stop}
    (reached : Relation.ReflTransGen extraction.Descends first stop)
    (own : entry ∈ extraction.stopEntries stop) (fresh : first.id ∉ first.active) :
    entry ∈ extraction.moduleEntries first.active first.id first.path := by
  induction reached using Relation.ReflTransGen.head_induction_on with
  | refl =>
      rcases (extraction.mem_stopEntries_iff _ _).mp own with ⟨item, body, found, isModule, reason⟩
      refine (extraction.mem_moduleEntries_iff said _ _ _).mpr
        ⟨fresh, item, body, found, isModule, ?_⟩
      rcases reason with node | ⟨child, listed, childItem, childFound, own⟩
      · exact Or.inl node
      · exact Or.inr ⟨child, listed, childItem, childFound, Or.inl own⟩
  | @head outer inner descends _ induction =>
      have deeper := induction descends.fresh
      rcases descends.listed with ⟨body, holds, listed⟩
      rcases (extraction.moduleBody?_eq_some_iff _ _).mp holds with ⟨item, found, isModule⟩
      rcases Option.isSome_iff_exists.mp descends.isModule with ⟨innerBody, innerHolds⟩
      rcases (extraction.moduleBody?_eq_some_iff _ _).mp innerHolds with
        ⟨innerItem, innerFound, innerIsModule⟩
      refine (extraction.mem_moduleEntries_iff said _ _ _).mpr
        ⟨fresh, item, body, found, isModule, Or.inr ⟨inner.id, listed, innerItem, innerFound, ?_⟩⟩
      refine Or.inr ⟨innerBody, innerIsModule, ?_⟩
      rw [← extraction.moduleName_of_found innerFound, ← descends.path_eq, ← descends.active_eq]
      exact deeper

/-! ### Stops and chains -/

theorem intercalate_concat (separator : String) (first last : String) (middle : List String) :
    separator.intercalate (first :: (middle ++ [last])) =
      separator.intercalate (first :: middle) ++ separator ++ last := by
  induction middle generalizing first with
  | nil => simp [String.intercalate_cons_cons]
  | cons second rest induction =>
      simp only [List.cons_append, String.intercalate_cons_cons, induction, String.append_assoc]

theorem chainPath_concat (extraction : Extraction) {ids : List ItemId} (nonempty : ids ≠ [])
    (id : ItemId) :
    extraction.chainPath (ids ++ [id]) =
      extendPath (extraction.chainPath ids) (extraction.moduleName id) := by
  rw [chainPath, List.tail_append_of_ne_nil nonempty, List.map_append]
  exact intercalate_concat _ _ _ _

theorem moduleChain_singleton_iff (extraction : Extraction) (id : ItemId) :
    extraction.ModuleChain [id] ↔
      id = extraction.crate.root ∧ (extraction.moduleBody? id).isSome := by
  constructor
  · intro chain
    exact ⟨Option.some.inj chain.fromRoot, chain.isModule id List.mem_cons_self⟩
  · intro single
    rcases single with ⟨rfl, isModule⟩
    refine ⟨rfl, List.nodup_singleton _, ?_, .singleton _⟩
    intro id member
    rwa [List.mem_singleton.mp member]

theorem moduleChain_concat_iff (extraction : Extraction) {ids : List ItemId} {outer : ItemId}
    (last : ids.getLast? = some outer) (id : ItemId) :
    extraction.ModuleChain (ids ++ [id]) ↔
      extraction.ModuleChain ids ∧ extraction.Lists outer id ∧ id ∉ ids ∧
        (extraction.moduleBody? id).isSome := by
  have nonempty : ids ≠ [] := by
    intro equal
    subst equal
    cases last
  have head : (ids ++ [id]).head? = ids.head? := List.head?_append_of_ne_nil ids nonempty
  have nodup : (ids ++ [id]).Nodup ↔ id ∉ ids ∧ ids.Nodup := by
    rw [← List.concat_eq_append]
    exact List.nodup_concat ids id
  have links : (ids ++ [id]).IsChain extraction.Lists ↔
      ids.IsChain extraction.Lists ∧ extraction.Lists outer id := by
    rw [List.isChain_append, last]
    simp
  constructor
  · intro longer
    rcases longer with ⟨fromRoot, distinct, isModule, listed⟩
    rw [head] at fromRoot
    rw [nodup] at distinct
    rw [links] at listed
    refine ⟨⟨fromRoot, distinct.2, ?_, listed.1⟩, listed.2, distinct.1, ?_⟩
    · intro other member
      exact isModule other (List.mem_append_left _ member)
    · exact isModule id (List.mem_append_right _ List.mem_cons_self)
  · intro parts
    rcases parts with ⟨chain, lists, fresh, isModule⟩
    refine ⟨head.trans chain.fromRoot, nodup.mpr ⟨fresh, chain.distinct⟩, ?_,
      links.mpr ⟨chain.listed, lists⟩⟩
    intro other member
    rcases List.mem_append.mp member with earlier | new
    · exact chain.isModule other earlier
    · rwa [List.mem_singleton.mp new]

/-- The root ends only the chain of itself. -/
theorem ModuleChain.two_le_length_iff {extraction : Extraction} {ids : List ItemId}
    (chain : extraction.ModuleChain ids) {outer : ItemId} (last : ids.getLast? = some outer) :
    2 ≤ ids.length ↔ outer ≠ extraction.crate.root := by
  match ids, chain, last with
  | [only], chain, last =>
      have isRoot := Option.some.inj chain.fromRoot
      have isLast := Option.some.inj last
      simp [← isLast, isRoot]
  | first :: second :: rest, chain, last =>
      have isRoot := Option.some.inj chain.fromRoot
      have later : outer ∈ second :: rest := by
        rw [List.getLast?_cons_cons] at last
        exact List.mem_of_getLast? last
      have different : outer ≠ extraction.crate.root := by
        intro equal
        subst equal
        exact (List.nodup_cons.mp chain.distinct).1 (isRoot ▸ later)
      simp [different]

/-- The modules around a stop and the stop's own, outermost first. -/
def Stop.chain (stop : Stop) : List ItemId :=
  (stop.id :: stop.active).reverse

theorem Stop.getLast?_chain (stop : Stop) : stop.chain.getLast? = some stop.id := by
  rw [Stop.chain, List.getLast?_reverse, List.head?_cons]

theorem Stop.chain_ne_nil (stop : Stop) : stop.chain ≠ [] := by
  simp [Stop.chain]

theorem Descends.chain_eq {extraction : Extraction} {outer inner : Stop}
    (descends : extraction.Descends outer inner) : inner.chain = outer.chain ++ [inner.id] := by
  rw [Stop.chain, Stop.chain, descends.active_eq, List.reverse_cons]

theorem Lists.isModule {extraction : Extraction} {outer inner : ItemId}
    (lists : extraction.Lists outer inner) : (extraction.moduleBody? outer).isSome := by
  rcases lists with ⟨body, holds, _⟩
  exact Option.isSome_of_eq_some holds

/-- Each stop ends a chain, and its path is that of the chain. -/
theorem moduleChain_of_stop (extraction : Extraction) {stop : Stop}
    (reached : Relation.ReflTransGen extraction.Descends extraction.rootStop stop)
    (isModule : (extraction.moduleBody? stop.id).isSome) :
    extraction.ModuleChain stop.chain ∧ stop.path = extraction.chainPath stop.chain := by
  induction reached with
  | refl =>
      exact ⟨(extraction.moduleChain_singleton_iff _).mpr ⟨rfl, isModule⟩,
        String.intercalate_singleton.symm⟩
  | @tail outer inner _ descends induction =>
      rcases induction descends.listed.isModule with ⟨chain, path⟩
      have fresh : inner.id ∉ outer.chain := by
        have outside := descends.fresh
        rw [descends.active_eq] at outside
        rwa [Stop.chain, List.mem_reverse]
      rw [descends.chain_eq]
      constructor
      · exact (extraction.moduleChain_concat_iff outer.getLast?_chain _).mpr
          ⟨chain, descends.listed, fresh, isModule⟩
      · rw [extraction.chainPath_concat outer.chain_ne_nil, ← path]
        exact descends.path_eq

/-- Each chain leads to a stop. -/
theorem exists_stop_of_moduleChain (extraction : Extraction) {ids : List ItemId}
    (chain : extraction.ModuleChain ids) :
    ∃ stop, Relation.ReflTransGen extraction.Descends extraction.rootStop stop ∧
      stop.chain = ids := by
  induction ids using List.reverseRecOn with
  | nil => cases chain.fromRoot
  | append_singleton earlier id induction =>
      cases earlier using List.reverseRecOn with
      | nil =>
          rcases (extraction.moduleChain_singleton_iff id).mp chain with ⟨rfl, _⟩
          exact ⟨extraction.rootStop, .refl, rfl⟩
      | append_singleton before outer =>
          have last : (before ++ [outer]).getLast? = some outer := by simp
          rcases (extraction.moduleChain_concat_iff last id).mp chain with
            ⟨shorter, listed, fresh, isModule⟩
          rcases induction shorter with ⟨stop, reached, equal⟩
          have stopId : stop.id = outer := by
            have sameLast := stop.getLast?_chain
            rw [equal, last] at sameLast
            exact (Option.some.inj sameLast).symm
          let inner : Stop := ⟨stop.id :: stop.active, id,
            extendPath stop.path (extraction.moduleName id)⟩
          have descends : extraction.Descends stop inner := {
            listed := stopId ▸ listed
            isModule := isModule
            active_eq := rfl
            fresh := by
              rw [← equal, Stop.chain, List.mem_reverse] at fresh
              exact fresh
            path_eq := rfl }
          refine ⟨inner, reached.tail descends, ?_⟩
          rw [descends.chain_eq, equal]

end Extraction

end CrateGraph
