import CrateGraph.Proofs.Extraction.CarriedOut
import Mathlib.Data.List.Basic

/-!
Views of what some steps state.

A view picks out of the triples what somebody wants to know. What comes into it of a description is
put together from what comes into it of the description's parts, in order.
-/

namespace CrateGraph

open Rdf (Triple)

section Views

variable {View : Type} (view : Triple → Option View)

/-- What comes into a view of the triples that some steps state. -/
def inView (steps : List Step) : List View :=
  (steps.filterMap Step.triple?).filterMap view

@[simp] theorem inView_nil : inView view [] = [] :=
  rfl

@[simp] theorem inView_append (left right : List Step) :
    inView view (left ++ right) = inView view left ++ inView view right := by
  rw [inView, List.filterMap_append, List.filterMap_append]
  rfl

theorem inView_flatMap {Source : Type} (sources : List Source) (describe : Source → List Step) :
    inView view (sources.flatMap describe) =
      sources.flatMap fun source => inView view (describe source) := by
  rw [inView, List.filterMap_flatMap, List.filterMap_flatMap]
  rfl

@[simp] theorem inView_triple_cons (triple : Triple) (rest : List Step) :
    inView view (.triple triple :: rest) = (view triple).toList ++ inView view rest := by
  cases seen : view triple <;> simp [inView, Step.triple?, seen]

@[simp] theorem inView_mention_cons (iri name : String) (rest : List Step) :
    inView view (.mention iri name :: rest) = inView view rest :=
  rfl

@[simp] theorem inView_countFunction_cons (rest : List Step) :
    inView view (.countFunction :: rest) = inView view rest :=
  rfl

variable {view}

theorem mem_inView_iff (steps : List Step) (shown : View) :
    shown ∈ inView view steps ↔ ∃ triple, .triple triple ∈ steps ∧ view triple = some shown := by
  rw [inView, List.mem_filterMap]
  constructor
  · intro seeing
    rcases seeing with ⟨triple, stated, seen⟩
    rcases List.mem_filterMap.mp stated with ⟨step, member, states⟩
    exact ⟨triple, Step.eq_triple_of_triple? states ▸ member, seen⟩
  · intro stating
    rcases stating with ⟨triple, member, seen⟩
    exact ⟨triple, List.mem_filterMap.mpr ⟨_, member, rfl⟩, seen⟩

theorem inView_eq_nil {steps : List Step}
    (unseen : ∀ triple, .triple triple ∈ steps → view triple = none) :
    inView view steps = [] := by
  rw [List.eq_nil_iff_forall_not_mem]
  intro shown member
  rcases (mem_inView_iff steps shown).mp member with ⟨triple, stated, seen⟩
  rw [unseen triple stated] at seen
  cases seen

end Views

namespace Extraction

variable (extraction : Extraction) {View : Type} {view : Triple → Option View} {node : String}

/-- What comes into a view of a run is what comes into it of the entries carried out. -/
theorem filterMap_triples_eq_flatMap (skips : Progress.SkipsStubs view) :
    extraction.triples.filterMap view =
      extraction.carriedOut.flatMap fun entry => inView view entry.steps := by
  rw [extraction.filterMap_triples skips, ← inView_flatMap]
  rfl

theorem inView_typeEdge (predicate : String) (type : RustType) :
    inView view (extraction.typeEdge node predicate type) =
      (extraction.typeIri? type).toList.filterMap fun target =>
        view ⟨node, predicate, .iri target⟩ := by
  rw [typeEdge]
  cases extraction.typeIri? type with
  | none => rfl
  | some target => cases seen : view ⟨node, predicate, .iri target⟩ <;> simp [Step.iri, seen]

def boundTraits (bounds : List GenericBound) : List PathReference :=
  bounds.filterMap fun
    | .trait trait _ _ => some trait
    | _ => none

theorem inView_boundEdges (predicate : String) (bounds : List GenericBound) :
    inView view (extraction.boundEdges node predicate bounds) =
      (boundTraits bounds).filterMap fun trait =>
        view ⟨node, predicate, .iri (extraction.referenceIri trait)⟩ := by
  rw [boundEdges, inView_flatMap, boundTraits, List.filterMap_filterMap,
    List.filterMap_eq_flatMap_toList]
  congr 1
  funext bound
  cases bound <;> simp [Step.iri]

end Extraction

end CrateGraph
