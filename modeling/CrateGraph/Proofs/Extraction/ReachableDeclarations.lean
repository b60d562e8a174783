import CrateGraph.Proofs.Extraction.ModuleWalk

/-!
The modules and types that a run declares, by the chains of modules that lead to them.

Main statement: a run declares a module for each chain of two or more modules, and a type for each
named type that the last module of a chain lists, and it declares nothing else. This holds of any
index, also of one whose modules list each other or themselves.
-/

namespace CrateGraph

/-- Is this the body of a struct, an enum, a union, a trait or a type alias? -/
def ItemBody.isTypeBody : ItemBody → Bool
  | .struct _ | .enum _ | .union _ | .trait _ | .typeAlias _ => true
  | _ => false

theorem Item.properName?_eq_some_iff (item : Item) (name : String) :
    item.properName? = some name ↔ item.name = some name ∧ name ≠ "" := by
  simp [Item.properName?, Option.filter_eq_some_iff]

namespace Extraction

theorem typeClasses_eq_nil_iff (body : ItemBody) :
    typeClasses body = [] ↔ body.isTypeBody = false := by
  cases body <;> simp [typeClasses, ItemBody.isTypeBody]

/-- An item asks for a declaration if it is a type with a name. -/
theorem declared_by_item_iff (extraction : Extraction) (item : Item) (path : String)
    (declaration : Declaration) :
    (∃ entry ∈ extraction.itemEntries item path, entry.declaration? = some declaration) ↔
      ∃ name, item.body.isTypeBody ∧ item.name = some name ∧ name ≠ "" ∧
        declaration = .type (extraction.typeIri (extendPath path name)) := by
  unfold itemEntries
  split
  · next isFunction => simp [isFunction, ItemBody.isTypeBody, Entry.declaration?]
  · next isConstant => simp [isConstant, ItemBody.isTypeBody, Entry.declaration?]
  · next isStatic => simp [isStatic, ItemBody.isTypeBody, Entry.declaration?]
  · split
    · next noClass =>
        rw [typeClasses_eq_nil_iff] at noClass
        simp [noClass]
    · next nameless _ =>
        constructor
        · intro asking
          rcases asking with ⟨entry, member, _⟩
          cases member
        · intro typed
          rcases typed with ⟨name, _, named, proper, _⟩
          rw [(item.properName?_eq_some_iff name).mpr ⟨named, proper⟩] at nameless
          cases nameless
    · next name named classes =>
        have isType : item.body.isTypeBody = true := by
          rw [← Bool.not_eq_false, ← typeClasses_eq_nil_iff]
          exact classes
        have isName := (item.properName?_eq_some_iff name).mp named
        simp only [List.mem_singleton, exists_eq_left, Entry.declaration?, Option.some.injEq]
        constructor
        · intro equal
          exact ⟨name, isType, isName.1, isName.2, equal.symm⟩
        · intro typed
          rcases typed with ⟨other, _, otherNamed, _, equal⟩
          rw [isName.1] at otherNamed
          rw [equal, Option.some.inj otherNamed]

/-- A stop asks for its own declaration, unless it is the root, and for those of the types that it
lists. -/
theorem declared_at_stop_iff (extraction : Extraction) (stop : Stop) (declaration : Declaration) :
    (∃ entry ∈ extraction.stopEntries stop, entry.declaration? = some declaration) ↔
      ((extraction.moduleBody? stop.id).isSome ∧ stop.id ≠ extraction.crate.root ∧
          declaration = .module stop.path) ∨
        ∃ id item name, extraction.Lists stop.id id ∧ extraction.item? id = some item ∧
          item.body.isTypeBody ∧ item.name = some name ∧ name ≠ "" ∧
          declaration = .type (extraction.typeIri (extendPath stop.path name)) := by
  constructor
  · intro asking
    rcases asking with ⟨entry, member, asked⟩
    rcases (extraction.mem_stopEntries_iff stop entry).mp member with
      ⟨item, body, found, isModule, reason⟩
    have holds := (extraction.moduleBody?_eq_some_iff _ _).mpr ⟨item, found, isModule⟩
    rcases reason with ⟨inner, rfl⟩ | ⟨child, listed, childItem, childFound, own⟩
    · exact Or.inl ⟨Option.isSome_of_eq_some holds, inner, (Option.some.inj asked).symm⟩
    · rcases (extraction.declared_by_item_iff childItem stop.path declaration).mp
        ⟨entry, own, asked⟩ with ⟨name, isType, named, proper, equal⟩
      exact Or.inr ⟨child, childItem, name, ⟨body, holds, listed⟩, childFound, isType, named,
        proper, equal⟩
  · intro described
    rcases described with ⟨isModule, inner, rfl⟩ |
      ⟨child, childItem, name, lists, childFound, details⟩
    · rcases Option.isSome_iff_exists.mp isModule with ⟨body, holds⟩
      rcases (extraction.moduleBody?_eq_some_iff _ _).mp holds with ⟨item, found, isModule⟩
      refine ⟨.module stop.path (extraction.moduleNode stop.path item),
        (extraction.mem_stopEntries_iff stop _).mpr ?_, rfl⟩
      exact ⟨item, body, found, isModule, Or.inl ⟨inner, rfl⟩⟩
    · rcases lists with ⟨body, holds, listed⟩
      rcases (extraction.moduleBody?_eq_some_iff _ _).mp holds with ⟨item, found, isModule⟩
      rcases (extraction.declared_by_item_iff childItem stop.path declaration).mpr
        ⟨name, details⟩ with ⟨entry, own, asked⟩
      refine ⟨entry, (extraction.mem_stopEntries_iff stop entry).mpr ?_, asked⟩
      exact ⟨item, body, found, isModule, Or.inr ⟨child, listed, childItem, childFound, own⟩⟩

/-- A run declares what the stops of its walk ask for. -/
theorem declares_run_iff_stop (extraction : Extraction) (declaration : Declaration) :
    (extraction.run (Progress.start extraction)).1.Declares declaration ↔
      ∃ stop, Relation.ReflTransGen extraction.Descends extraction.rootStop stop ∧
        ∃ entry ∈ extraction.stopEntries stop, entry.declaration? = some declaration := by
  rw [declares_run_iff]
  have notLog : ∀ entry : Entry, entry.declaration? = some declaration →
      ∀ record, entry ≠ .log record := by
    intro entry asked record equal
    rw [equal] at asked
    cases asked
  constructor
  · intro asking
    rcases asking with ⟨entry, member, asked⟩
    rcases extraction.exists_stop_of_mem_moduleEntries (notLog entry asked) _ _ _ member with
      ⟨stop, reached, own⟩
    exact ⟨stop, reached, entry, own, asked⟩
  · intro stopping
    rcases stopping with ⟨stop, reached, entry, own, asked⟩
    exact ⟨entry, extraction.mem_moduleEntries_of_stop (notLog entry asked) reached own
      List.not_mem_nil, asked⟩

theorem module_declared_iff (extraction : Extraction) (path : String) :
    path ∈ (extraction.run (Progress.start extraction)).1.modules ↔
      ∃ ids, extraction.ModuleChain ids ∧ 2 ≤ ids.length ∧ path = extraction.chainPath ids := by
  have atStops := extraction.declares_run_iff_stop (.module path)
  simp only [declared_at_stop_iff] at atStops
  apply atStops.trans
  constructor
  · intro stopping
    rcases stopping with ⟨stop, reached, ⟨isModule, inner, equal⟩ | listed⟩
    · rcases extraction.moduleChain_of_stop reached isModule with ⟨chain, pathEqual⟩
      have long := (chain.two_le_length_iff stop.getLast?_chain).mpr inner
      exact ⟨stop.chain, chain, long, (Declaration.module.inj equal).trans pathEqual⟩
    · rcases listed with ⟨_, _, _, _, _, _, _, _, equal⟩
      cases equal
  · intro chained
    rcases chained with ⟨ids, chain, long, equal⟩
    rcases extraction.exists_stop_of_moduleChain chain with ⟨stop, reached, rfl⟩
    have isModule := chain.isModule stop.id (List.mem_of_getLast? stop.getLast?_chain)
    have inner := (chain.two_le_length_iff stop.getLast?_chain).mp long
    rcases extraction.moduleChain_of_stop reached isModule with ⟨_, pathEqual⟩
    rw [← pathEqual] at equal
    exact ⟨stop, reached, Or.inl ⟨isModule, inner, congrArg Declaration.module equal⟩⟩

theorem type_declared_iff (extraction : Extraction) (iri : String) :
    iri ∈ (extraction.run (Progress.start extraction)).1.types ↔
      ∃ ids last id item name, extraction.ModuleChain ids ∧ ids.getLast? = some last ∧
        extraction.Lists last id ∧ extraction.item? id = some item ∧
        item.body.isTypeBody ∧ item.name = some name ∧ name ≠ "" ∧
        iri = extraction.typeIri (extendPath (extraction.chainPath ids) name) := by
  have atStops := extraction.declares_run_iff_stop (.type iri)
  simp only [declared_at_stop_iff] at atStops
  apply atStops.trans
  constructor
  · intro stopping
    rcases stopping with ⟨stop, reached, ⟨_, _, equal⟩ | listed⟩
    · cases equal
    · rcases listed with ⟨id, item, name, lists, found, isType, named, proper, equal⟩
      rcases extraction.moduleChain_of_stop reached lists.isModule with ⟨chain, pathEqual⟩
      have iriEqual := Declaration.type.inj equal
      rw [pathEqual] at iriEqual
      exact ⟨stop.chain, stop.id, id, item, name, chain, stop.getLast?_chain, lists, found, isType,
        named, proper, iriEqual⟩
  · intro chained
    rcases chained with ⟨ids, last, id, item, name, chain, isLast, lists, details⟩
    rcases details with ⟨found, isType, named, proper, equal⟩
    rcases extraction.exists_stop_of_moduleChain chain with ⟨stop, reached, rfl⟩
    obtain rfl : stop.id = last := Option.some.inj (stop.getLast?_chain.symm.trans isLast)
    rcases extraction.moduleChain_of_stop reached lists.isModule with ⟨_, pathEqual⟩
    rw [← pathEqual] at equal
    exact ⟨stop, reached, Or.inr ⟨id, item, name, lists, found, isType, named, proper,
      congrArg Declaration.type equal⟩⟩

/-- The declared modules are those of the chains of two or more modules, and the declared types
those that the chains lead to. -/
theorem declared_iff_reached_by_chain (extraction : Extraction) :
    (∀ path, path ∈ (extraction.run (Progress.start extraction)).1.modules ↔
      ∃ ids, extraction.ModuleChain ids ∧ 2 ≤ ids.length ∧ path = extraction.chainPath ids) ∧
    (∀ iri, iri ∈ (extraction.run (Progress.start extraction)).1.types ↔
      ∃ ids last id item name, extraction.ModuleChain ids ∧ ids.getLast? = some last ∧
        extraction.Lists last id ∧ extraction.item? id = some item ∧
        item.body.isTypeBody ∧ item.name = some name ∧ name ≠ "" ∧
        iri = extraction.typeIri (extendPath (extraction.chainPath ids) name)) :=
  ⟨extraction.module_declared_iff, extraction.type_declared_iff⟩

end Extraction

end CrateGraph
