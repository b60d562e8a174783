import CrateGraph.Proofs.Extraction.Members

/-!
Methods are functions, except that a trait makes methods of all items that it lists.

The functions of modules and of implementations are told from other items, but the associated types
and constants of a trait become methods like its functions, and are counted like them.
-/

namespace CrateGraph

open Ontology

def ItemBody.isFunction : ItemBody → Bool
  | .function _ => true
  | _ => false

namespace Extraction

variable (extraction : Extraction)

/-- Every item with a name that a declared trait lists is a function. -/
def TraitsListFunctions : Prop :=
  ∀ path name item, extraction.DeclaresType path name item → ∀ id ∈ traitItemIds item.body,
    ∀ member, extraction.item? id = some member → member.properName?.isSome →
      member.body.isFunction

theorem methodSource_isFunction_iff :
    (∀ node item, extraction.MethodSource node item → item.body.isFunction) ↔
      extraction.TraitsListFunctions := by
  constructor
  · intro faithful path name item declares id listed member found isNamed
    rcases Option.isSome_iff_exists.mp isNamed with ⟨memberName, named⟩
    exact faithful _ member (.traitItem declares listed found named)
  · intro traits node item source
    cases source with
    | moduleFunction _ isFunction _ =>
        rw [isFunction]
        rfl
    | traitItem declares listed found named =>
        exact traits _ _ _ declares _ listed item found (Option.isSome_of_eq_some named)
    | implementationFunction _ _ _ isFunction _ =>
        rw [isFunction]
        rfl

/-- A node is a method exactly if it comes from a function of a module or an implementation or from
any item that a trait lists, and methods are counted as functions one by one. They all come from
functions exactly if traits list nothing else under a name. -/
theorem methods_come_from_sources :
    (∀ node, ⟨node, Property.type, .iri Class.method⟩ ∈ extraction.triples ↔
      ∃ item, extraction.MethodSource node item) ∧
    extraction.outcome.stats.functions =
      (instances [Class.method] extraction.triples).length ∧
    ((∀ node item, extraction.MethodSource node item → item.body.isFunction) ↔
      extraction.TraitsListFunctions) :=
  ⟨extraction.method_iff_source, extraction.functions_eq_length_methods,
    extraction.methodSource_isFunction_iff⟩

/-! ### A trait with an associated type -/

def associatedItem : Item :=
  .plain (some "Item") (.associatedType ⟨⟨[], []⟩, [], none⟩)

/-- The trait `trait Container { type Item; }`. -/
def container : Item :=
  .plain (some "Container") (.trait ⟨⟨[], []⟩, [], ["2"], [], false, false, true⟩)

/-- A crate with nothing but the trait `Container`. -/
def containing : Extraction :=
  demo ["1"] [("1", container), ("2", associatedItem)] Table.empty

theorem methodSource_associatedItem :
    containing.MethodSource
      (Iri.member (containing.typeIri (extendPath "demo" "Container")) "Item" "")
      associatedItem := by
  have named : container.properName? = some "Container" := Item.properName?_plain (by simp) _
  have memberNamed : associatedItem.properName? = some "Item" := Item.properName?_plain (by simp) _
  have only : ∀ entry ∈ [("1", container), ("2", associatedItem)], entry.2.body.isTypeBody →
      entry.2 = container := by
    intro entry member isType
    simp only [List.mem_cons, List.not_mem_nil, or_false] at member
    rcases member with rfl | rfl
    · rfl
    · cases isType
  have found : containing.item? "2" = some associatedItem :=
    item?_demo (List.mem_cons_of_mem _ List.mem_cons_self)
  rcases exists_declaresType_demo List.mem_cons_self List.mem_cons_self rfl named only with
    ⟨path, declares, same⟩
  have source := MethodSource.traitItem declares List.mem_cons_self found memberNamed
  rw [same] at source
  exact source

/-- No item is a function, and still one is made a method and counted. -/
theorem associated_type_is_method :
    (∀ id item, containing.item? id = some item → item.body.isFunction = false) ∧
      ⟨Iri.member (containing.typeIri (extendPath "demo" "Container")) "Item" "", Property.type,
        .iri Class.method⟩ ∈ containing.triples ∧
      0 < containing.outcome.stats.functions := by
  have isMethod := (containing.method_iff_source _).mpr ⟨_, methodSource_associatedItem⟩
  refine ⟨?_, isMethod, ?_⟩
  · intro id item found
    have member := (Table.mem_entries_iff _ _ _).mpr found
    simp only [containing, demo, List.mem_cons, Prod.mk.injEq, List.not_mem_nil,
      or_false] at member
    rcases member with ⟨_, rfl⟩ | ⟨_, rfl⟩ | ⟨_, rfl⟩
    all_goals rfl
  · have shown := (mem_instances_iff _ _ _).mpr isMethod
    have counted := containing.functions_eq_length_methods
    have positive := List.length_pos_of_mem shown
    omega

end Extraction

end CrateGraph
