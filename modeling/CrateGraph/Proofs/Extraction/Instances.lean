import CrateGraph.Proofs.Extraction.Descriptions
import CrateGraph.Proofs.Extraction.Marks

/-!
The nodes that a run gives some class, and the marks that show them.

A node that gets a class outside of signatures gets it by a mark of a description that is carried
out, or by being a type that is merely mentioned. Marks therefore tell which nodes get which class,
how often and in what order.
-/

namespace CrateGraph

open Rdf (Term Triple)
open Ontology

/-- The subject of a triple that gives it one of some classes. -/
def instance? (classes : List String) : Triple → Option String
  | ⟨subject, predicate, .iri object⟩ =>
      if predicate = Property.type ∧ object ∈ classes then some subject else none
  | _ => none

/-- The nodes that get one of some classes, as often as they get it, in order. -/
def instances (classes : List String) (triples : List Triple) : List String :=
  triples.filterMap (instance? classes)

theorem instances_append (classes : List String) (left right : List Triple) :
    instances classes (left ++ right) = instances classes left ++ instances classes right :=
  List.filterMap_append

theorem instance?_eq_some_iff (classes : List String) (triple : Triple) (node : String) :
    instance? classes triple = some node ↔
      ∃ nodeClass ∈ classes, triple = ⟨node, Property.type, .iri nodeClass⟩ := by
  rcases triple with ⟨subject, predicate, object⟩
  cases object with
  | iri value =>
      simp only [instance?, Option.ite_none_right_eq_some, Option.some.injEq, Triple.mk.injEq,
        Term.iri.injEq]
      constructor
      · intro typed
        exact ⟨value, typed.1.2, typed.2, typed.1.1, rfl⟩
      · intro typed
        rcases typed with ⟨_, listed, same, isType, rfl⟩
        exact ⟨⟨isType, listed⟩, same⟩
  | literal | typed => simp [instance?]

theorem mem_instances_iff (nodeClass node : String) (triples : List Triple) :
    node ∈ instances [nodeClass] triples ↔ ⟨node, Property.type, .iri nodeClass⟩ ∈ triples := by
  simp [instances, instance?_eq_some_iff]

namespace Mark

def instance? (classes : List String) : Mark → Option String
  | .typed node nodeClass => if nodeClass ∈ classes then some node else none
  | _ => none

@[simp] theorem instance?_typed (classes : List String) (node nodeClass : String) :
    (typed node nodeClass).instance? classes = if nodeClass ∈ classes then some node else none :=
  rfl

@[simp] theorem instance?_function (classes : List String) : function.instance? classes = none :=
  rfl

@[simp] theorem instance?_implements (classes : List String) (type trait : String) :
    (implements type trait).instance? classes = none :=
  rfl

end Mark

/-! ### Steps -/

/-- Outside of signatures the marks of some steps show every class that the steps give. -/
theorem filterMap_instance?_steps {classes : List String}
    (own : ∀ nodeClass ∈ classes, nodeClass ∉ signatureClasses) (steps : List Step) :
    (steps.filterMap Step.triple?).filterMap (instance? classes) =
      (marks steps).filterMap (Mark.instance? classes) := by
  rw [marks, List.filterMap_filterMap, List.filterMap_filterMap]
  congr 1
  funext step
  cases step with
  | triple stated =>
      rcases stated with ⟨subject, predicate, object⟩
      cases object with
      | iri value =>
          simp only [Step.triple?, Option.bind_some, instance?, Step.mark?]
          by_cases isType : predicate = Property.type
          · by_cases inSignature : value ∈ signatureClasses
            · have notOwn : value ∉ classes := fun listed => own value listed inSignature
              simp [isType, inSignature, notOwn]
            · simp [isType, inSignature]
          · simp only [isType, false_and, if_false]
            split <;> rfl
      | literal | typed => rfl
  | mention | countFunction | countUnresolved => rfl

/-! ### Marks of members -/

/-- The classes of what belongs to a module, a type or an implementation. -/
def memberClasses : List String :=
  [Class.method, Class.field, Class.constant, Class.static, Class.enumVariant, Class.member]

/-- Marks that are all of members, with a function counted for each method. -/
structure MemberMarks (found : List Mark) : Prop where
  members : ∀ mark ∈ found,
    mark = .function ∨ ∃ node, ∃ nodeClass ∈ memberClasses, mark = .typed node nodeClass
  balanced : found.count .function = (found.filterMap (Mark.instance? [Class.method])).length

namespace MemberMarks

theorem nil : MemberMarks [] :=
  ⟨by simp, rfl⟩

theorem append {left right : List Mark} (first : MemberMarks left) (second : MemberMarks right) :
    MemberMarks (left ++ right) := by
  constructor
  · intro mark member
    rcases List.mem_append.mp member with inLeft | inRight
    · exact first.members mark inLeft
    · exact second.members mark inRight
  · rw [List.count_append, List.filterMap_append, List.length_append, first.balanced,
      second.balanced]

theorem flatMap {Source : Type} {sources : List Source} {describe : Source → List Mark}
    (each : ∀ source ∈ sources, MemberMarks (describe source)) :
    MemberMarks (sources.flatMap describe) := by
  induction sources with
  | nil => exact nil
  | cons source rest induction =>
      rw [List.flatMap_cons]
      exact (each source List.mem_cons_self).append
        (induction fun other member => each other (List.mem_cons_of_mem source member))

theorem methodMarks (node : String) : MemberMarks (Extraction.methodMarks node) := by
  constructor
  · simp [Extraction.methodMarks, memberClasses]
  · simp [Extraction.methodMarks, List.filterMap_cons]

theorem typed {nodeClass : String} (isMember : nodeClass ∈ memberClasses)
    (notMethod : nodeClass ≠ Class.method) (node : String) :
    MemberMarks [.typed node nodeClass] := by
  constructor
  · simp [isMember]
  · simp [notMethod]

theorem filterMap_instance? {found : List Mark} (memberMarks : MemberMarks found)
    {classes : List String} (apart : ∀ nodeClass ∈ memberClasses, nodeClass ∉ classes) :
    found.filterMap (Mark.instance? classes) = [] := by
  rw [List.filterMap_eq_nil_iff]
  intro mark member
  rcases memberMarks.members mark member with rfl | ⟨node, nodeClass, isMember, rfl⟩
  · rfl
  · simp [apart nodeClass isMember]

theorem implements_not_mem {found : List Mark} (memberMarks : MemberMarks found)
    (type trait : String) : .implements type trait ∉ found := by
  intro member
  rcases memberMarks.members _ member with equal | ⟨_, _, _, equal⟩
  · cases equal
  · cases equal

end MemberMarks

namespace Extraction

variable (extraction : Extraction)

theorem memberMarks_moduleFunction (item : Item) (body : FunctionBody) (path : String) :
    MemberMarks (marks (extraction.moduleFunction item body path)) := by
  rw [marks_moduleFunction]
  exact .flatMap fun node _ => .methodMarks node

theorem memberMarks_constant (item : Item) (body : ConstantBody) (path : String) :
    MemberMarks (marks (extraction.constant item body path)) := by
  rw [marks_constant]
  apply MemberMarks.flatMap
  intro node _
  have field : MemberMarks [.typed node Class.field] :=
    .typed (by simp [memberClasses]) (by simp [Class.field, Class.method]) node
  have constant : MemberMarks [.typed node Class.constant] :=
    .typed (by simp [memberClasses]) (by simp [Class.constant, Class.method]) node
  exact field.append constant

theorem memberMarks_static (item : Item) (body : StaticBody) (path : String) :
    MemberMarks (marks (extraction.static item body path)) := by
  rw [marks_static, List.map_eq_flatMap]
  apply MemberMarks.flatMap
  intro node _
  exact .typed (by simp [memberClasses]) (by simp [Class.static, Class.method]) node

theorem memberMarks_method (id : ItemId) (owner : String) :
    MemberMarks (marks (extraction.method id owner)) := by
  rw [marks_method]
  exact .flatMap fun node _ => .methodMarks node

theorem memberMarks_field (owner : String) (id : ItemId) :
    MemberMarks (marks (extraction.field owner id)) := by
  rw [marks_field, List.map_eq_flatMap]
  apply MemberMarks.flatMap
  intro node _
  exact .typed (by simp [memberClasses]) (by simp [Class.field, Class.method]) node

theorem memberMarks_variantField (owner : String) (id : ItemId) :
    MemberMarks (marks (extraction.variantField owner id)) := by
  rw [marks_variantField, ← marks_field]
  exact extraction.memberMarks_field owner id

theorem memberMarks_variant (owner : String) (id : ItemId) :
    MemberMarks (marks (extraction.variant owner id)) := by
  rw [marks_variant]
  apply MemberMarks.flatMap
  intro item _
  apply MemberMarks.flatMap
  intro name _
  have variant : MemberMarks [.typed (Iri.variant owner name) Class.enumVariant] :=
    .typed (by simp [memberClasses]) (by simp [Class.enumVariant, Class.method]) _
  exact variant.append (.flatMap fun fieldId _ => extraction.memberMarks_variantField _ fieldId)

theorem memberMarks_typeDetails (type : String) (body : ItemBody) :
    MemberMarks (marks (extraction.typeDetails type body)) := by
  rw [marks_typeDetails]
  apply MemberMarks.append
  · apply MemberMarks.append
    · exact .flatMap fun id _ => extraction.memberMarks_field type id
    · exact .flatMap fun id _ => extraction.memberMarks_variant type id
  · exact .flatMap fun id _ => extraction.memberMarks_method id type

theorem memberMarks_implementationMember (owner : String) (id : ItemId) :
    MemberMarks (marks (extraction.implementationMember owner id)) := by
  have associated : ∀ node, MemberMarks [.typed node Class.member] :=
    .typed (by simp [memberClasses]) (by simp [Class.member, Class.method])
  rw [marks_implementationMember]
  apply MemberMarks.flatMap
  intro item _
  apply MemberMarks.flatMap
  intro node _
  unfold implementationMemberMarks
  split
  · exact .methodMarks node
  · exact associated node
  · exact associated node
  · exact .nil

theorem memberMarks_implementationMembers (owner : String) (ids : List ItemId) :
    MemberMarks (ids.flatMap fun id => marks (extraction.implementationMember owner id)) :=
  .flatMap fun id _ => extraction.memberMarks_implementationMember owner id

end Extraction

/-! ### Runs -/

namespace Extraction

theorem marks_typeEntry (extraction : Extraction) (path name : String) (item : Item) :
    marks (extraction.typeEntry path name item).steps =
      (typeClasses item.body).map (Mark.typed (extraction.typeIri (extendPath path name)) ·) ++
        marks (extraction.typeDetails (extraction.typeIri (extendPath path name)) item.body) := by
  simp [typeEntry, Entry.steps, marks_typeHeader]

def carriedMarks (extraction : Extraction) : List Mark :=
  extraction.carriedOut.flatMap fun entry => marks entry.steps

theorem instances_triples (extraction : Extraction) {classes : List String}
    (own : ∀ nodeClass ∈ classes, nodeClass ∉ signatureClasses) (declared : Class.type ∉ classes) :
    instances classes extraction.triples =
      extraction.carriedMarks.filterMap (Mark.instance? classes) := by
  have skips : Progress.SkipsStubs (instance? classes) := by
    intro iri name
    simp [Progress.stubNode, instance?, declared]
  rw [instances, extraction.filterMap_triples skips, filterMap_instance?_steps own, marks_flatMap,
    carriedMarks]

/-- A node gets a class by a mark of a description. -/
theorem typed_iff (extraction : Extraction) {nodeClass : String}
    (own : nodeClass ∉ signatureClasses) (declared : nodeClass ≠ Class.type) (node : String) :
    ⟨node, Property.type, .iri nodeClass⟩ ∈ extraction.triples ↔
      ∃ steps, extraction.Describes steps ∧ .typed node nodeClass ∈ marks steps := by
  rw [extraction.mem_triples_iff]
  · simp only [mem_marks_iff (.typed node nodeClass) (Step.mark?_own own node)]
    rfl
  · intro iri name
    simp [Progress.stubNode, declared]

/-- A type implements a trait by a mark of a description. -/
theorem implements_iff (extraction : Extraction) (type trait : String) :
    ⟨type, Property.implements, .iri trait⟩ ∈ extraction.triples ↔
      ∃ steps, extraction.Describes steps ∧ .implements type trait ∈ marks steps := by
  rw [extraction.mem_triples_iff]
  · simp only [mem_marks_iff (.implements type trait) (Step.mark?_implements type trait)]
    rfl
  · intro iri name
    simp [Progress.stubNode, Property.implements]

end Extraction

end CrateGraph
