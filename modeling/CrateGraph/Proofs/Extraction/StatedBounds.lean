import CrateGraph.Proofs.Extraction.DetailViews

/-!
Which bounds are stated of type parameters.

Main statement: a bound by a trait is stated of a node exactly if a type parameter with this node
declares one, wherever its generics stand and whatever the modifier. So the bounds that are stated
are the ones that have to be met only if no relaxed bound stands alone.
-/

namespace CrateGraph

open Rdf (Term Triple)
open Ontology

namespace Extraction

variable (extraction : Extraction)

/-- The modifier of a bound that takes back a requirement, as in `?Sized`. -/
def relaxed : String := "maybe"

/-- A type parameter with the node declares a bound by the trait, with the modifier. -/
inductive DeclaresBound : String → String → String → Prop
  | intro {owner modifier : String} {generics : Generics} {ordinal : Nat}
      {parameter : GenericParameter} {bounds : List GenericBound} {default : Option RustType}
      {isSynthetic : Bool} {trait : PathReference} {parameters : List GenericParameter}
      (has : extraction.HasGenerics owner generics)
      (stands : generics.parameters[ordinal]? = some parameter)
      (isType : parameter.kind = .type bounds default isSynthetic)
      (declared : .trait trait modifier parameters ∈ bounds) :
      DeclaresBound (Iri.typeParameter owner ordinal) modifier (extraction.referenceIri trait)

theorem mem_boundTraits_iff (bounds : List GenericBound) (trait : PathReference) :
    trait ∈ boundTraits bounds ↔
      ∃ modifier parameters, .trait trait modifier parameters ∈ bounds := by
  rw [boundTraits, List.mem_filterMap]
  constructor
  · intro bounding
    rcases bounding with ⟨bound, member, same⟩
    cases bound with
    | trait other modifier parameters =>
        cases same
        exact ⟨modifier, parameters, member⟩
    | outlives | capture | unknown => cases same
  · intro declaring
    rcases declaring with ⟨modifier, parameters, member⟩
    exact ⟨_, member, rfl⟩

variable {extraction}

theorem DeclaresBound.edge {node modifier trait : String}
    (declares : extraction.DeclaresBound node modifier trait) :
    ⟨node, Property.traitBound, .iri trait⟩ ∈ extraction.triples := by
  cases declares with
  | intro has stands isType declared => exact (TraitAt.traitBound has stands isType declared).edge

/-- What the generics of an owner say by the property is of bounds that they declare. -/
theorem HasGenerics.declaresBound {owner node : String} {generics : Generics} {object : Term}
    (has : extraction.HasGenerics owner generics)
    (stated : object ∈ inView (object? node Property.traitBound)
      (extraction.genericParameters owner 0 generics.parameters)) :
    ∃ modifier trait, object = .iri trait ∧ extraction.DeclaresBound node modifier trait := by
  have shows := showsDetails_object? mem_detailProperties.1 node
  rw [genericParameters_eq_flatMap, inView_flatMap, List.mem_flatMap] at stated
  rcases stated with ⟨⟨parameter, ordinal⟩, numbered, stated⟩
  have stands := List.mk_mem_zipIdx_iff_getElem?.mp numbered
  rw [shows.genericParameter] at stated
  split at stated
  · next bounds default isSynthetic isType =>
      rcases List.mem_filterMap.mp stated with ⟨trait, bounding, same⟩
      rcases (mem_boundTraits_iff bounds trait).mp bounding with ⟨modifier, parameters, declared⟩
      simp only [object?, Option.ite_none_right_eq_some, Option.some.injEq] at same
      rcases same with ⟨⟨rfl, _⟩, rfl⟩
      exact ⟨modifier, _, rfl, .intro has stands isType declared⟩
  · cases stated

variable (extraction)

theorem traitBound_iff_declaresBound (node : String) (object : Term) :
    ⟨node, Property.traitBound, object⟩ ∈ extraction.triples ↔
      ∃ modifier trait, object = .iri trait ∧ extraction.DeclaresBound node modifier trait := by
  constructor
  · intro stated
    have shows := showsDetails_object? mem_detailProperties.1 node
    rw [← mem_objects_iff, objects, extraction.filterMap_triples_eq_flatMap shows.skipsStubs,
      List.mem_flatMap] at stated
    rcases stated with ⟨entry, carried, stated⟩
    rcases shows.of_mem_carriedOut carried stated with
      ⟨owner, generics, has, own⟩ | ⟨path, name, item, _, _, derived⟩
    · exact has.declaresBound own
    · -- Derived traits are stated by another property.
      have apart : Property.derives ≠ Property.traitBound := by
        simp [Property.derives, Property.traitBound]
      simp [inView_derives, object?, apart] at derived
  · intro declaring
    rcases declaring with ⟨modifier, trait, rfl, declares⟩
    exact declares.edge

/-- The bounds that are stated are all that are declared, whatever the modifiers. They are the ones
that have to be met exactly if a relaxed bound only ever stands beside one that is not relaxed, of
the same node and by the same trait. -/
theorem bounds_are_stated_with_any_modifier :
    (∀ node object, ⟨node, Property.traitBound, object⟩ ∈ extraction.triples ↔
      ∃ modifier trait, object = .iri trait ∧ extraction.DeclaresBound node modifier trait) ∧
    ((∀ node trait, ⟨node, Property.traitBound, .iri trait⟩ ∈ extraction.triples ↔
        ∃ modifier, extraction.DeclaresBound node modifier trait ∧ modifier ≠ relaxed) ↔
      ∀ node trait, extraction.DeclaresBound node relaxed trait →
        ∃ modifier, extraction.DeclaresBound node modifier trait ∧ modifier ≠ relaxed) := by
  refine ⟨extraction.traitBound_iff_declaresBound, ?_⟩
  constructor
  · intro faithful node trait declares
    exact (faithful node trait).mp declares.edge
  · intro accompanied node trait
    constructor
    · intro stated
      rcases (extraction.traitBound_iff_declaresBound node _).mp stated with
        ⟨modifier, _, same, declares⟩
      rw [← Term.iri.inj same] at declares
      by_cases isRelaxed : modifier = relaxed
      · rw [isRelaxed] at declares
        exact accompanied node trait declares
      · exact ⟨modifier, declares, isRelaxed⟩
    · intro declaring
      rcases declaring with ⟨modifier, declares, _⟩
      exact declares.edge

/-- The struct `Shared<T: ?Sized>`. -/
def sharedStruct : Item :=
  .plain (some "Shared") (.struct
    ⟨.unit, ⟨[⟨"T", .type [.trait ⟨"Sized", some "9", none⟩ relaxed []] none false⟩], []⟩, []⟩)

/-- A crate with the struct `Shared` alone. -/
def sharing : Extraction :=
  demo ["1"] [("1", sharedStruct)]
    ⟨[("1", ⟨["demo", "Shared"], .struct, 0⟩),
      ("9", ⟨["core", "marker", "Sized"], .trait, 1⟩)], by simp⟩

theorem eq_sharedStruct_of_found {id : ItemId} {item : Item} (found : sharing.item? id = some item)
    (inner : ∀ body, item.body ≠ .module body) : item = sharedStruct :=
  congrArg Prod.snd (List.mem_singleton.mp (mem_of_item?_demo found inner))

theorem generics_of_sharing {owner : String} {generics : Generics}
    (has : sharing.HasGenerics owner generics) :
    typeGenerics? sharedStruct.body = some generics := by
  cases has with
  | type declares given =>
      rcases declares.visited.found with ⟨id, found⟩
      rw [← eq_sharedStruct_of_found found]
      · exact given
      · intro body isModule
        rw [isModule] at given
        cases given
  | function describes =>
      rcases describes with ⟨item, source, isFunction⟩
      have found : ∃ id, sharing.item? id = some item := by
        cases source with
        | moduleFunction visited => exact visited.found
        | traitItem _ _ found => exact ⟨_, found⟩
        | implementationFunction _ _ found => exact ⟨_, found⟩
      rcases found with ⟨id, found⟩
      rw [eq_sharedStruct_of_found found] at isFunction
      · cases isFunction
      · intro body isModule
        rw [isModule] at isFunction
        cases isFunction

/-- The only bound of the crate is relaxed. -/
theorem modifier_of_sharing {node modifier trait : String}
    (declares : sharing.DeclaresBound node modifier trait) : modifier = relaxed := by
  cases declares with
  | @intro _ _ _ ordinal _ _ _ _ _ _ has stands isType declared =>
      cases generics_of_sharing has
      cases ordinal with
      | zero =>
          cases stands
          cases isType
          cases List.mem_singleton.mp declared
          rfl
      | succ => cases stands

theorem sharing_declares_shared :
    ∃ path, sharing.DeclaresType path "Shared" sharedStruct ∧
      sharing.typeIri (extendPath path "Shared") =
        sharing.typeIri (extendPath "demo" "Shared") := by
  have named : sharedStruct.properName? = some "Shared" := Item.properName?_plain (by simp) _
  have only : ∀ entry ∈ [("1", sharedStruct)],
      entry.2.body.isTypeBody → entry.2 = sharedStruct := by
    intro entry member _
    rw [List.mem_singleton.mp member]
  exact exists_declaresType_demo List.mem_cons_self List.mem_cons_self rfl named only

/-- The parameter `T` does without a size, and still a bound by `Sized` is stated of it. -/
theorem relaxed_bound_is_stated :
    ⟨Iri.typeParameter (sharing.typeIri (extendPath "demo" "Shared")) 0, Property.traitBound,
        .iri (sharing.typeIri "core::marker::Sized")⟩ ∈ sharing.triples ∧
      ¬∃ modifier, sharing.DeclaresBound
        (Iri.typeParameter (sharing.typeIri (extendPath "demo" "Shared")) 0) modifier
        (sharing.typeIri "core::marker::Sized") ∧ modifier ≠ relaxed := by
  constructor
  · have names : sharing.referenceIri ⟨"Sized", some "9", none⟩ =
        sharing.typeIri "core::marker::Sized" := by
      simp [referenceIri, referencedPath, sharing, demo, Table.get?, Entries.get?,
        ItemSummary.fullPath]
    rcases sharing_declares_shared with ⟨path, declares, same⟩
    have bounded : sharing.DeclaresBound
        (Iri.typeParameter (sharing.typeIri (extendPath path "Shared")) (0 : Nat)) relaxed
        (sharing.referenceIri ⟨"Sized", some "9", none⟩) :=
      .intro (.type declares rfl) rfl rfl List.mem_cons_self
    rw [same, names] at bounded
    exact bounded.edge
  · intro declaring
    rcases declaring with ⟨modifier, declares, strict⟩
    exact strict (modifier_of_sharing declares)

end Extraction

end CrateGraph
