import CrateGraph.Proofs.Extraction.EnteredModules
import Mathlib.Data.Finset.Lattice.Lemmas
import Mathlib.Data.List.Perm.Subperm
import Mathlib.Logic.Relation

/-!
The walk through the modules step by step.

A walk keeps a stack of the modules that it is inside of, each with the items that are still ahead
there, and a set of the modules that it has marked as entered. It marks a module when it enters it
and unmarks it when it leaves it.

Main statement: under all marks the walk comes to a stand, with what the outline has and with the
marks as they were. On the way it never enters a marked module, so that its stack never holds more
modules than the index does.
-/

namespace CrateGraph.Extraction

/-- A module that a walk is inside of, with the items of it that are still ahead. -/
structure OpenModule where
  id : ItemId
  path : String
  ahead : List ItemId

/-- Where a walk stands: the modules that are marked as entered, those that it is inside of,
innermost first, a module that it has come to, and what it has said. -/
structure WalkState where
  entered : Finset ItemId
  inside : List OpenModule
  arriving : Option (ItemId × String)
  said : List Entry

namespace WalkState

def start (entered : Finset ItemId) (id : ItemId) (path : String) : WalkState :=
  ⟨entered, [], some (id, path), []⟩

def around (state : WalkState) : List ItemId :=
  state.inside.map OpenModule.id

def say (state : WalkState) (entries : List Entry) : WalkState :=
  { state with said := state.said ++ entries }

end WalkState

variable (extraction : Extraction)

/-! ### Steps -/

/-- The walk enters the module that it has come to unless that is marked. -/
def arriveAt (state : WalkState) (id : ItemId) (path : String) : WalkState :=
  match extraction.item? id with
  | none =>
      state.say [logEntry .warning ("Module " ++ id ++ " (" ++ path ++ ") not found in index")]
  | some item =>
      match item.body with
      | .module body =>
          if id ∈ state.entered then
            state.say
              [logEntry .warning
                ("Module cycle detected at " ++ path ++ ", not descending again")]
          else
            { state with
              entered := insert id state.entered
              inside := ⟨id, path, body.items⟩ :: state.inside
              said := state.said ++
                (if id = extraction.crate.root then []
                  else [.module path (extraction.moduleNode path item)]) }
      | _ => state

/-- The walk comes to an item of the module with the path. -/
def goThrough (state : WalkState) (path : String) (id : ItemId) : WalkState :=
  match extraction.item? id with
  | none =>
      state.say
        [logEntry .debug ("Item " ++ id ++ " in " ++ path ++ " not in index, skipping")]
  | some item =>
      match item.body with
      | .module _ =>
          { state with
            arriving := some (id, extendPath path (item.properName?.getD unnamedModule)) }
      | _ => state.say (extraction.itemEntries item path)

def next? (state : WalkState) : Option WalkState :=
  match state.arriving, state.inside with
  | some (id, path), _ => some (extraction.arriveAt { state with arriving := none } id path)
  | none, [] => none
  | none, ⟨id, _, []⟩ :: outer =>
      some { state with entered := state.entered.erase id, inside := outer }
  | none, ⟨id, path, item :: ahead⟩ :: outer =>
      some (extraction.goThrough { state with inside := ⟨id, path, ahead⟩ :: outer } path item)

def Steps (state next : WalkState) : Prop :=
  extraction.next? state = some next

def Reaches : WalkState → WalkState → Prop :=
  Relation.ReflTransGen extraction.Steps

variable {extraction}

/-! ### The walk comes to a stand -/

/-- Whatever is around, the steps do the task by way of the entries. -/
def Accomplishes (extraction : Extraction) (entered : Finset ItemId) (entries : List Entry)
    (after : Finset ItemId) : WalkTask → Prop
  | .module id path => ∀ inside said,
      extraction.Reaches ⟨entered, inside, some (id, path), said⟩
        ⟨after, inside, none, said ++ entries⟩
  | .items path ids => ∀ owner outer said,
      extraction.Reaches ⟨entered, ⟨owner, path, ids⟩ :: outer, none, said⟩
        ⟨after, ⟨owner, path, []⟩ :: outer, none, said ++ entries⟩

theorem Walks.accomplishes {entered after : Finset ItemId} {task : WalkTask}
    {entries : List Entry} (walks : extraction.Walks entered task entries after) :
    extraction.Accomplishes entered entries after task := by
  induction walks with
  | missing absent =>
      intro inside said
      exact .single (by simp [Steps, next?, arriveAt, absent, WalkState.say])
  | @noModule _ _ _ item found other =>
      intro inside said
      refine .single ?_
      cases isBody : item.body with
      | module body => exact absurd isBody (other body)
      | _ => simp [Steps, next?, arriveAt, found, isBody]
  | cycle found isModule marked =>
      intro inside said
      exact .single (by simp [Steps, next?, arriveAt, found, isModule, marked, WalkState.say])
  | @enter entered after id path item body entries found isModule outside _ within =>
      intro inside said
      have entering : extraction.Steps ⟨entered, inside, some (id, path), said⟩
          ⟨insert id entered, ⟨id, path, body.items⟩ :: inside, none, said ++
            (if id = extraction.crate.root then []
              else [.module path (extraction.moduleNode path item)])⟩ := by
        simp [Steps, next?, arriveAt, found, isModule, outside]
      have leaving : ∀ said, extraction.Steps ⟨after, ⟨id, path, []⟩ :: inside, none, said⟩
          ⟨after.erase id, inside, none, said⟩ := fun _ => rfl
      rw [← List.append_assoc]
      exact (Relation.ReflTransGen.head entering (within id inside _)).tail (leaving _)
  | done =>
      intro owner outer said
      rw [List.append_nil]
      exact .refl
  | missingItem absent _ rest =>
      intro owner outer said
      rw [← List.append_assoc]
      refine .head ?_ (rest owner outer _)
      simp [Steps, next?, goThrough, absent, WalkState.say]
  | innerModule found isModule _ _ inner rest =>
      intro owner outer said
      rw [← List.append_assoc]
      refine .head ?_ ((inner _ said).trans (rest owner outer _))
      simp [Steps, next?, goThrough, found, isModule]
  | @item _ _ _ _ _ item _ found other _ rest =>
      intro owner outer said
      rw [← List.append_assoc]
      refine .head ?_ (rest owner outer _)
      cases isBody : item.body with
      | module body => exact absurd isBody (other body)
      | _ => simp [Steps, next?, goThrough, found, isBody, WalkState.say]

/-! ### What a step does to the stack -/

/-- A step leaves the stack as it is, enters a module that is not marked, or leaves the innermost
module. -/
inductive Moves (extraction : Extraction) (state next : WalkState) : Prop
  | stays (marks : next.entered = state.entered) (stack : next.around = state.around)
  | enters {id : ItemId} (isModule : (extraction.moduleBody? id).isSome)
      (outside : id ∉ state.entered) (marks : next.entered = insert id state.entered)
      (stack : next.around = id :: state.around)
  | leaves {id : ItemId} (marks : next.entered = state.entered.erase id)
      (stack : state.around = id :: next.around)

theorem moves_arriveAt (extraction : Extraction) (state : WalkState) (id : ItemId) (path : String) :
    extraction.Moves state (extraction.arriveAt state id path) := by
  unfold arriveAt
  split
  · exact .stays rfl rfl
  · next item found =>
      split
      · next body isModule =>
          have holds := (extraction.moduleBody?_eq_some_iff id body).mpr ⟨item, found, isModule⟩
          split
          · exact .stays rfl rfl
          · next outside => exact .enters (Option.isSome_of_eq_some holds) outside rfl rfl
      · exact .stays rfl rfl

theorem goThrough_stays (extraction : Extraction) (state : WalkState) (path : String)
    (id : ItemId) :
    (extraction.goThrough state path id).entered = state.entered ∧
      (extraction.goThrough state path id).around = state.around := by
  unfold goThrough
  split
  · exact ⟨rfl, rfl⟩
  · split <;> exact ⟨rfl, rfl⟩

theorem Steps.moves {state next : WalkState} (steps : extraction.Steps state next) :
    extraction.Moves state next := by
  obtain ⟨entered, inside, arriving, said⟩ := state
  unfold Steps next? at steps
  split at steps
  · next id path arrives =>
      cases steps
      -- Apart from the module that it comes to, the walk stands where it stood.
      cases extraction.moves_arriveAt ⟨entered, inside, none, said⟩ id path with
      | stays marks stack => exact .stays marks stack
      | enters isModule outside marks stack => exact .enters isModule outside marks stack
      | leaves marks stack => exact .leaves marks stack
  · cases steps
  · next stack =>
      cases steps
      dsimp only at stack
      subst stack
      exact .leaves rfl rfl
  · next id path item ahead outer _ stack =>
      cases steps
      dsimp only at stack
      subst stack
      have stays := extraction.goThrough_stays
        ⟨entered, ⟨id, path, ahead⟩ :: outer, arriving, said⟩ path item
      exact .stays stays.1 stays.2

/-! ### What holds on the way -/

/-- The walk is inside of distinct modules, none of which was marked when it began, and exactly
these have been marked since. -/
structure NestedIn (extraction : Extraction) (active : Finset ItemId) (state : WalkState) :
    Prop where
  distinct : state.around.Nodup
  apart : ∀ id ∈ state.around, id ∉ active
  modules : ∀ id ∈ state.around, (extraction.moduleBody? id).isSome
  marks : state.entered = active ∪ state.around.toFinset

theorem nestedIn_start (active : Finset ItemId) (id : ItemId) (path : String) :
    extraction.NestedIn active (.start active id path) where
  distinct := List.nodup_nil
  apart := by simp [WalkState.around, WalkState.start]
  modules := by simp [WalkState.around, WalkState.start]
  marks := by simp [WalkState.around, WalkState.start]

namespace NestedIn

variable {active : Finset ItemId} {state : WalkState}

theorem outside (nested : extraction.NestedIn active state) {id : ItemId}
    (unmarked : id ∉ state.entered) : id ∉ active ∧ id ∉ state.around := by
  simpa [nested.marks] using unmarked

theorem step {next : WalkState} (nested : extraction.NestedIn active state)
    (steps : extraction.Steps state next) : extraction.NestedIn active next := by
  cases steps.moves with
  | stays marks stack =>
      constructor
      · exact stack ▸ nested.distinct
      · exact stack ▸ nested.apart
      · exact stack ▸ nested.modules
      · rw [marks, stack, nested.marks]
  | enters isModule unmarked marks stack =>
      have fresh := nested.outside unmarked
      constructor
      · rw [stack]
        exact List.nodup_cons.mpr ⟨fresh.2, nested.distinct⟩
      · rw [stack]
        exact List.forall_mem_cons.mpr ⟨fresh.1, nested.apart⟩
      · rw [stack]
        exact List.forall_mem_cons.mpr ⟨isModule, nested.modules⟩
      · rw [marks, stack, nested.marks, List.toFinset_cons, Finset.union_insert]
  | @leaves id marks stack =>
      have distinct := nested.distinct
      have apart := nested.apart
      have modules := nested.modules
      rw [stack] at distinct apart modules
      have unlisted := (List.nodup_cons.mp distinct).1
      constructor
      · exact (List.nodup_cons.mp distinct).2
      · exact (List.forall_mem_cons.mp apart).2
      · exact (List.forall_mem_cons.mp modules).2
      · rw [marks, nested.marks, stack, List.toFinset_cons, Finset.union_insert,
          Finset.erase_insert]
        simpa using ⟨(List.forall_mem_cons.mp apart).1, unlisted⟩

theorem of_reaches {before : WalkState} (nested : extraction.NestedIn active before)
    (reaches : extraction.Reaches before state) : extraction.NestedIn active state := by
  induction reaches with
  | refl => exact nested
  | tail _ steps induction => exact induction.step steps

end NestedIn

variable (extraction)

def moduleIds : List ItemId :=
  extraction.crate.index.keys.filter fun id => (extraction.moduleBody? id).isSome

theorem mem_moduleIds {id : ItemId} (isModule : (extraction.moduleBody? id).isSome) :
    id ∈ extraction.moduleIds := by
  rcases Option.isSome_iff_exists.mp isModule with ⟨body, holds⟩
  rcases (extraction.moduleBody?_eq_some_iff id body).mp holds with ⟨item, found, _⟩
  have listed : id ∈ extraction.crate.index.keys :=
    List.mem_map.mpr ⟨(id, item), Entries.mem_of_get? found, rfl⟩
  exact List.mem_filter.mpr ⟨listed, isModule⟩

variable {extraction}

theorem NestedIn.length_around_le {active : Finset ItemId} {state : WalkState}
    (nested : extraction.NestedIn active state) :
    state.around.length ≤ extraction.moduleIds.length := by
  have listed : state.around ⊆ extraction.moduleIds :=
    fun _ member => extraction.mem_moduleIds (nested.modules _ member)
  exact (nested.distinct.subperm listed).length_le

variable (extraction)

/-- From every module and under all marks, the walk comes to a stand. It has then said what the
outline has, and it leaves the marks as they were. On the way it is never inside of more modules
than the index holds, its marks are the first ones and those of the modules around it, and it
enters none that is marked. -/
theorem walk_ends (active : List ItemId) (id : ItemId) (path : String) :
    (∃ last, extraction.Reaches (.start active.toFinset id path) last ∧
      extraction.next? last = none ∧ last.entered = active.toFinset ∧
      last.said = extraction.moduleEntries active id path) ∧
    ∀ state, extraction.Reaches (.start active.toFinset id path) state →
      state.around.length ≤ extraction.moduleIds.length ∧
      state.entered = active.toFinset ∪ state.around.toFinset ∧
      ∀ next inner, extraction.next? state = some next → next.around = inner :: state.around →
        inner ∉ state.entered := by
  constructor
  · have walks := @walks_module extraction active id path
    exact ⟨_, walks.accomplishes [] [], rfl, rfl, rfl⟩
  · intro state reached
    have nested := (nestedIn_start active.toFinset id path).of_reaches reached
    refine ⟨nested.length_around_le, nested.marks, ?_⟩
    intro next inner steps deeper
    cases Steps.moves steps with
    | stays _ stack =>
        rw [stack] at deeper
        exact absurd deeper.symm (List.cons_ne_self _ _)
    | enters _ outside _ stack =>
        rw [stack] at deeper
        rwa [← (List.cons.inj deeper).1]
    | leaves _ stack =>
        have lengths := congrArg List.length deeper
        have shorter := congrArg List.length stack
        simp only [List.length_cons] at lengths shorter
        omega

end CrateGraph.Extraction
