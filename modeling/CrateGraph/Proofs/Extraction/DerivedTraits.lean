import CrateGraph.Proofs.Extraction.DetailViews

/-!
Which traits a type is said to derive.

Main statement: a declared type is said to derive the traits of the implementations that it lists
and that carry a plain text as the marker of derived implementations, in the order of the list. An
attribute that is a tagged object is hidden as such a marker as well, without counting as one. So
the derived traits are complete only where every marked implementation is marked by a plain text.
-/

namespace CrateGraph

open Rdf (Term Triple)
open Ontology

/-! ### Markers -/

namespace Attribute

/-- Does the attribute mark a derived implementation, whichever way the document writes it? -/
def isMarker (raw : Json String) : Bool :=
  (text? raw).any isDeriveMarker

/-- Of the markers those that are plain texts count. -/
theorem marksDerived_iff (raw : Json String) :
    marksDerived raw ↔ isMarker raw ∧ ∃ text, raw = .str text := by
  cases raw with
  | str text => simp [marksDerived, isMarker, text?]
  | null | bool | int | float | arr | obj => simp [marksDerived]

end Attribute

/-- Does the item carry a marker, in whichever way? -/
def Item.carriesMarker (item : Item) : Bool :=
  item.attributes.any Attribute.isMarker

theorem Item.carriesMarker_of_isAutomaticallyDerived {item : Item}
    (derived : item.isAutomaticallyDerived) : item.carriesMarker := by
  rcases List.any_eq_true.mp derived with ⟨raw, member, marks⟩
  exact List.any_eq_true.mpr
    ⟨raw, member, ((Attribute.marksDerived_iff raw).mp marks).1⟩

/-! ### Lists -/

section Lists

variable {Source Key Part View : Type}

/-- Where each key is had once, the one with the key makes up what only those with it give. -/
theorem flatMap_eq_of_nodup_keys {sources : List Source} {key : Source → Option Key}
    {give : Source → List View} (nodup : (sources.filterMap key).Nodup) {source : Source}
    {own : Key} (member : source ∈ sources) (hasKey : key source = some own)
    (others : ∀ other ∈ sources, key other ≠ some own → give other = []) :
    sources.flatMap give = give source := by
  rcases List.append_of_mem member with ⟨before, after, rfl⟩
  rw [List.filterMap_append, List.filterMap_cons_some hasKey, List.nodup_middle,
    List.nodup_cons, List.mem_append, not_or] at nodup
  have apart : ∀ {part : List Source}, own ∉ part.filterMap key → part ⊆ before ++ source :: after →
      part.flatMap give = [] := by
    intro part absent within
    refine List.flatMap_eq_nil_iff.mpr fun other inPart => others other (within inPart) ?_
    exact fun same => absent (List.mem_filterMap.mpr ⟨other, inPart, same⟩)
  rw [List.flatMap_append, List.flatMap_cons, apart nodup.1.1 (List.subset_append_left _ _),
    apart nodup.1.2 (by simp), List.nil_append, List.append_nil]

/-- If one selection only ever leaves out what another one takes, they are as long as each other
only if they take the same. -/
theorem forall_eq_of_length_filterMap_eq {less more : Source → Option Part}
    (leaves : ∀ source, less source = none ∨ less source = more source) {sources : List Source}
    (length : (sources.filterMap less).length = (sources.filterMap more).length) :
    ∀ source ∈ sources, less source = more source := by
  have shorter : ∀ rest : List Source,
      (rest.filterMap less).length ≤ (rest.filterMap more).length := by
    intro rest
    rw [List.length_filterMap_eq_countP, List.length_filterMap_eq_countP]
    refine List.countP_mono_left fun source _ taken => ?_
    rcases leaves source with none | same
    · simp [none] at taken
    · rwa [← same]
  induction sources with
  | nil => exact List.forall_mem_nil _
  | cons source rest induction =>
      have bound := shorter rest
      rw [List.filterMap_cons, List.filterMap_cons] at length
      rcases leaves source with none | same
      · cases taken : more source with
        | none =>
            rw [none, taken] at length
            exact List.forall_mem_cons.mpr ⟨none.trans taken.symm, induction length⟩
        | some =>
            rw [none, taken] at length
            simp only [List.length_cons] at length
            omega
      · refine List.forall_mem_cons.mpr ⟨same, induction ?_⟩
        rw [same] at length
        cases taken : more source with
        | none => rwa [taken] at length
        | some =>
            rw [taken] at length
            exact Nat.succ.inj length

end Lists

namespace Extraction

variable (extraction : Extraction)

/-! ### Hidden attributes -/

/-- The attributes that are shown are those with a text that are no markers. -/
theorem attributes_eq_map (item : Item) (owner : String) :
    extraction.attributes item owner =
      if extraction.options.includeAttributes then
        ((item.attributes.filter (!Attribute.isMarker ·)).filterMap Attribute.text?).map
          (Step.literal owner Property.hasAttribute ·)
      else [] := by
  rw [attributes, List.filterMap_filterMap, List.filterMap_filter, List.map_filterMap]
  congr 2
  funext raw
  rw [Attribute.isMarker]
  cases Attribute.text? raw with
  | none => rfl
  | some text => cases marker : Attribute.isDeriveMarker text <;> simp [marker]

/-! ### Selections of implementations -/

theorem derivedTrait?_eq_none_or (item : Item) :
    derivedTrait? Item.isAutomaticallyDerived item = none ∨
      derivedTrait? Item.isAutomaticallyDerived item = derivedTrait? Item.carriesMarker item := by
  cases derived : item.isAutomaticallyDerived with
  | false =>
      left
      cases shape : item.body
      all_goals simp [derivedTrait?, shape, derived]
  | true =>
      right
      have marked := Item.carriesMarker_of_isAutomaticallyDerived derived
      simp [derivedTrait?, derived, marked]

/-- Every listed implementation of a trait that is marked at all is marked by a plain text. -/
def MarksPlainly (listed : List ItemId) : Prop :=
  ∀ id ∈ listed, ∀ item body, extraction.item? id = some item →
    item.body = .implementation body → body.trait.isSome → item.carriesMarker →
      item.isAutomaticallyDerived

theorem marksPlainly_iff (listed : List ItemId) :
    extraction.MarksPlainly listed ↔
      ∀ id ∈ listed, (extraction.item? id).bind (derivedTrait? Item.isAutomaticallyDerived) =
        (extraction.item? id).bind (derivedTrait? Item.carriesMarker) := by
  constructor
  · intro plain id isListed
    cases found : extraction.item? id with
    | none => rfl
    | some item =>
        rw [Option.bind_some, Option.bind_some]
        cases shape : item.body with
        | implementation body =>
            cases ofTrait : body.trait with
            | none => simp [derivedTrait?, shape, ofTrait]
            | some trait =>
                have marked := plain id isListed item body found shape (by rw [ofTrait]; rfl)
                have weaker := @Item.carriesMarker_of_isAutomaticallyDerived item
                simp only [derivedTrait?, shape, Bool.eq_iff_iff.mpr ⟨weaker, marked⟩]
        | module | struct | enum | union | trait | typeAlias | variant | function | reexport
        | constant | static | field | macroSource | associatedConstant | associatedType
        | unknown => simp [derivedTrait?, shape]
  · intro same id isListed item body found shape isSome marked
    have selected := same id isListed
    rcases Option.isSome_iff_exists.mp isSome with ⟨trait, ofTrait⟩
    simp only [found, Option.bind_some, derivedTrait?, shape, ofTrait, marked, if_true] at selected
    by_contra missed
    rw [if_neg missed] at selected
    cases selected

/-- Leaving out what is marked by other than plain texts makes no difference exactly if there is
nothing to leave out. -/
theorem derivedTraits_paths_eq_iff (listed : List ItemId) :
    (extraction.derivedTraits Item.isAutomaticallyDerived listed).map (Term.literal ·.path) =
        (extraction.derivedTraits Item.carriesMarker listed).map (Term.literal ·.path) ↔
      extraction.MarksPlainly listed := by
  rw [marksPlainly_iff]
  constructor
  · intro same
    have length := congrArg List.length same
    rw [List.length_map, List.length_map] at length
    refine forall_eq_of_length_filterMap_eq (fun id => ?_) length
    cases extraction.item? id with
    | none => exact Or.inl rfl
    | some item => exact derivedTrait?_eq_none_or item
  · intro same
    rw [derivedTraits, derivedTraits, List.filterMap_congr same]

/-! ### What is said of a type -/

variable {extraction}

theorem inView_derives_genericParameters (node owner : String)
    (parameters : List GenericParameter) :
    inView (object? node Property.derives) (extraction.genericParameters owner 0 parameters) =
      [] := by
  have shows := showsDetails_object? mem_detailProperties.2 node
  have apart : Property.traitBound ≠ Property.derives := by
    simp [Property.derives, Property.traitBound]
  rw [genericParameters_eq_flatMap, inView_flatMap, List.flatMap_eq_nil_iff]
  rintro ⟨parameter, ordinal⟩ _
  dsimp only
  rw [shows.genericParameter]
  split
  · simp [object?, apart]
  · rfl

theorem inView_derives_method (node owner : String) (id : ItemId) :
    inView (object? node Property.derives) (extraction.method id owner) = [] := by
  rw [List.eq_nil_iff_forall_not_mem]
  intro object stated
  have shows := showsDetails_object? mem_detailProperties.2 node
  rcases shows.of_mem_method stated with ⟨_, _, _, _, _, _, own⟩
  rw [inView_derives_genericParameters] at own
  cases own

theorem inView_derives_typeEntry (path name : String) (item : Item) :
    inView (object? (extraction.typeIri (extendPath path name)) Property.derives)
        (extraction.typeEntry path name item).steps =
      if extraction.options.extractDerives then
        (extraction.derivedTraits Item.isAutomaticallyDerived
          (listedImplementations item.body)).map (Term.literal ·.path)
      else [] := by
  have shows := showsDetails_object? mem_detailProperties.2
    (extraction.typeIri (extendPath path name))
  have blank : ∀ {Source : Type} (sources : List Source),
      sources.flatMap (fun _ => ([] : List Term)) = [] :=
    fun sources => List.flatMap_eq_nil_iff.mpr fun _ _ => rfl
  rw [typeEntry, Entry.steps, inView_append, shows.blank (by simp), List.nil_append,
    shows.typeDetails]
  simp [blank, inView_derives_genericParameters, inView_derives_method, inView_derives, object?]

/-- An entry that says what a type derives is the one that declares it. -/
theorem declaredType?_of_derives {entry : Entry} (carried : entry ∈ extraction.carriedOut)
    {node : String} {object : Term}
    (stated : object ∈ inView (object? node Property.derives) entry.steps) :
    entry.declaredType? = some node := by
  have shows := showsDetails_object? mem_detailProperties.2 node
  rcases shows.of_mem_carriedOut carried stated with
    ⟨owner, generics, _, own⟩ | ⟨path, name, item, _, rfl, derived⟩
  · rw [inView_derives_genericParameters] at own
    cases own
  · by_contra apart
    have elsewhere : extraction.typeIri (extendPath path name) ≠ node :=
      fun same => apart (congrArg some same)
    simp [inView_derives, object?, elsewhere] at derived

/-- A declared type derives what the entry that declares it says. -/
theorem DeclaresType.objects_derives {path name : String} {item : Item}
    (declares : extraction.DeclaresType path name item) :
    objects (extraction.typeIri (extendPath path name)) Property.derives extraction.triples =
      if extraction.options.extractDerives then
        (extraction.derivedTraits Item.isAutomaticallyDerived
          (listedImplementations item.body)).map (Term.literal ·.path)
      else [] := by
  have shows := showsDetails_object? mem_detailProperties.2
    (extraction.typeIri (extendPath path name))
  have carried : extraction.typeEntry path name item ∈ extraction.carriedOut := by
    refine (extraction.mem_carriedOut_iff _).mpr (Or.inr (Or.inl
      ⟨List.mem_of_find?_eq_some declares.first, ?_⟩))
    rintro declaration ⟨⟩
    exact declares.first
  have nodup : (extraction.carriedOut.filterMap Entry.declaredType?).Nodup := by
    rw [extraction.entryTally_outcome.types]
    exact List.nodup_reverse.mpr extraction.entryTally_outcome.typesNodup
  rw [objects, extraction.filterMap_triples_eq_flatMap shows.skipsStubs,
    flatMap_eq_of_nodup_keys nodup carried rfl, inView_derives_typeEntry]
  intro entry isCarried apart
  rw [List.eq_nil_iff_forall_not_mem]
  exact fun object stated => apart (declaredType?_of_derives isCarried stated)

/-- A declared type derives the traits of the implementations that it lists and that a plain text
marks, in order. Those marked in whichever way are the same exactly if all that are marked are so by
a plain text; an attribute hides from the shown ones if it marks in whichever way. -/
theorem derived_traits_are_marked_plainly {path name : String} {item : Item}
    (declares : extraction.DeclaresType path name item)
    (wanted : extraction.options.extractDerives) :
    objects (extraction.typeIri (extendPath path name)) Property.derives extraction.triples =
      (extraction.derivedTraits Item.isAutomaticallyDerived
        (listedImplementations item.body)).map (Term.literal ·.path) ∧
    (objects (extraction.typeIri (extendPath path name)) Property.derives extraction.triples =
        (extraction.derivedTraits Item.carriesMarker
          (listedImplementations item.body)).map (Term.literal ·.path) ↔
      extraction.MarksPlainly (listedImplementations item.body)) ∧
    (∀ shown owner, extraction.attributes shown owner =
      if extraction.options.includeAttributes then
        ((shown.attributes.filter (!Attribute.isMarker ·)).filterMap Attribute.text?).map
          (Step.literal owner Property.hasAttribute ·)
      else []) ∧
    ∀ raw, Attribute.marksDerived raw ↔ Attribute.isMarker raw ∧ ∃ text, raw = .str text := by
  have derived := declares.objects_derives
  rw [if_pos wanted] at derived
  refine ⟨derived, ?_, extraction.attributes_eq_map, Attribute.marksDerived_iff⟩
  rw [derived]
  exact extraction.derivedTraits_paths_eq_iff _

/-- The struct `Point`, which lists one implementation. -/
def point : Item :=
  .plain (some "Point") (.struct ⟨.unit, ⟨[], []⟩, ["2"]⟩)

/-- The implementation `impl Clone for Point` with one attribute. -/
def pointClone (marker : Json String) : Item :=
  { Item.plain none (.implementation
      { generics := ⟨[], []⟩
        trait := some ⟨"Clone", some "9", none⟩
        target := .path ⟨"Point", some "1", none⟩
        items := []
        isUnsafe := false
        isNegative := false
        isSynthetic := false
        blanket := none }) with
    attributes := [marker] }

/-- A crate with the struct `Point`, which derives `Clone`. -/
def cloning (marker : Json String) : Extraction :=
  demo ["1"] [("1", point), ("2", pointClone marker)]
    ⟨[("1", ⟨["demo", "Point"], .struct, 0⟩), ("9", ⟨["core", "clone", "Clone"], .trait, 1⟩)],
      by simp⟩

theorem cloning_declares_point (marker : Json String) :
    ∃ path, (cloning marker).DeclaresType path "Point" point ∧
      (cloning marker).typeIri (extendPath path "Point") =
        (cloning marker).typeIri (extendPath "demo" "Point") := by
  have named : point.properName? = some "Point" := Item.properName?_plain (by simp) _
  have only : ∀ entry ∈ [("1", point), ("2", pointClone marker)],
      entry.2.body.isTypeBody → entry.2 = point := by
    intro entry member isType
    simp only [List.mem_cons, List.not_mem_nil, or_false] at member
    rcases member with rfl | rfl
    · rfl
    · cases isType
  exact exists_declaresType_demo List.mem_cons_self List.mem_cons_self rfl named only

theorem derivedTraits_cloning (counts : Item → Bool) (marker : Json String) :
    (cloning marker).derivedTraits counts (listedImplementations point.body) =
      if counts (pointClone marker) then [⟨"Clone", some "9", none⟩] else [] := by
  have found : (cloning marker).item? "2" = some (pointClone marker) := item?_demo (by simp)
  change List.filterMap _ ["2"] = _
  rw [List.filterMap_cons, found, Option.bind_some, derivedTrait?]
  cases counted : counts (pointClone marker) <;> simp [pointClone, Item.plain]

def plainMarker : Json String :=
  .str " #[automatically_derived]"

def taggedMarker : Json String :=
  .obj [("other", .str "#[automatically_derived]")]

theorem derived_traits_are_marked_plainly_clone :
    objects ((cloning plainMarker).typeIri (extendPath "demo" "Point")) Property.derives
      (cloning plainMarker).triples = [.literal "Clone"] := by
  rcases cloning_declares_point plainMarker with ⟨path, declares, same⟩
  have derived := (derived_traits_are_marked_plainly declares rfl).1
  have marked : (pointClone plainMarker).isAutomaticallyDerived := by decide +kernel
  rwa [same, derivedTraits_cloning, if_pos marked] at derived

/-- The tagged object marks the implementation and is hidden, and still nothing is derived. -/
theorem tagged_marker_derives_nothing :
    objects ((cloning taggedMarker).typeIri (extendPath "demo" "Point")) Property.derives
        (cloning taggedMarker).triples = [] ∧
      ((cloning taggedMarker).derivedTraits Item.carriesMarker
        (listedImplementations point.body)).map (Term.literal ·.path) = [.literal "Clone"] := by
  rcases cloning_declares_point taggedMarker with ⟨path, declares, same⟩
  have unmarked : ¬(pointClone taggedMarker).isAutomaticallyDerived := by decide +kernel
  have marked : (pointClone taggedMarker).carriesMarker := by decide +kernel
  constructor
  · have derived := declares.objects_derives
    rw [same, derivedTraits_cloning, if_neg unmarked] at derived
    exact derived
  · rw [derivedTraits_cloning, if_pos marked]
    rfl

end Extraction

end CrateGraph
