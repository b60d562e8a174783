import CrateGraph.Proofs.Extraction.AddressedDescriptions

/-!
The IRIs of a run can be written between angle brackets, but for backslashes.

Main statement: under a legal base every IRI that a run hands over is legal, or it is an address and
its only illegal characters are backslashes, one of which came in with a text of the document.
Escaping keeps the backslash, so this does happen: the length of an array may hold one.
-/

namespace CrateGraph

open Rdf (IsIri)
open Ontology

/-! ### The vocabulary is legal -/

/-- A namespace of the vocabulary, followed by letters and digits. -/
theorem isIri_term {namespaceIri : String} (known : namespaceIri ∈ namespaceNames.map Prod.snd)
    {term : String} (plain : term.toList.all Char.isAlphanum) : IsIri (namespaceIri ++ term) := by
  have namespaces : ∀ iri ∈ namespaceNames.map Prod.snd, IsIri iri := by decide +kernel
  intro character member
  rw [String.toList_append, List.mem_append] at member
  rcases member with inNamespace | inTerm
  · exact namespaces namespaceIri known character inNamespace
  · exact Iri.isIriCharacter_of_isAlphanum (List.all_eq_true.mp plain character inTerm)

theorem isIri_of_uses {flags : ExtractionFlags} {property : String} (uses : flags.Uses property) :
    IsIri property := by
  have plain : ∀ property ∈ plainProperties, IsIri property := by
    unfold plainProperties
    repeat
      refine List.forall_mem_cons.mpr
        ⟨isIri_term (by simp [namespaceNames]) (by decide +kernel), ?_⟩
    exact List.forall_mem_nil _
  rcases uses with isPlain | ⟨rfl, _⟩ | ⟨rfl, _⟩ | ⟨rfl, _⟩
  · exact plain property isPlain
  all_goals exact isIri_term (by simp [namespaceNames]) (by decide +kernel)

theorem isIri_of_mem_objectTerms {term : String} (member : term ∈ objectTerms) : IsIri term := by
  have classes : ∀ term ∈ classTerms, IsIri term := by
    unfold classTerms
    repeat
      refine List.forall_mem_cons.mpr
        ⟨isIri_term (by simp [namespaceNames]) (by decide +kernel), ?_⟩
    exact List.forall_mem_nil _
  rw [objectTerms, List.mem_append, List.mem_cons, List.mem_singleton] at member
  rcases member with isClass | rfl | rfl
  · exact classes term isClass
  · exact Rdf.isIri_xsdBoolean
  · exact Rdf.isIri_xsdInteger

namespace Extraction

variable (extraction : Extraction)

theorem IsMinted.written {extraction : Extraction} (legal : IsIri extraction.options.base)
    {iri : String} (minted : extraction.IsMinted iri) :
    ∃ texts, Iri.Minted extraction.minter texts iri ∧ Iri.WrittenFrom texts iri :=
  minted.imp fun _ ofTexts => ⟨ofTexts, ofTexts.writtenFrom (Iri.isIri_ofBase legal)⟩

theorem AddressedTriple.isMinted_or_isIri {extraction : Extraction} {triple : Rdf.Triple}
    (addressed : extraction.AddressedTriple triple) {iri : String} (member : iri ∈ triple.iris) :
    extraction.IsMinted iri ∨ IsIri iri := by
  rw [Rdf.Triple.iris, List.mem_cons, List.mem_cons] at member
  rcases member with rfl | rfl | inObject
  · exact Or.inl addressed.subject
  · exact Or.inr (isIri_of_uses addressed.property)
  · exact (addressed.object iri inObject).imp_right isIri_of_mem_objectTerms

/-- Every IRI that is handed over is legal, or an address in which the only illegal characters are
backslashes and one of whose texts holds a backslash. -/
theorem iris_legal_but_for_backslashes (legal : IsIri extraction.options.base) :
    ∀ triple ∈ extraction.triples, ∀ iri ∈ triple.iris,
      IsIri iri ∨ ∃ texts, Iri.Minted extraction.minter texts iri ∧ Iri.WrittenFrom texts iri := by
  intro triple stated iri member
  have addressed := extraction.addressedTriple_of_mem_triples stated
  rcases addressed.isMinted_or_isIri member with minted | isLegal
  · exact Or.inr (minted.written legal)
  · exact Or.inl isLegal

/-- The constant `DATA` of an array type whose length is written with a backslash. -/
def measuredConstant : Item :=
  .plain (some "DATA") (.constant ⟨.array (.primitive "u8") "b\"\\n\".len()", none⟩)

def measuring : Extraction :=
  demo ["1"] [("1", measuredConstant)] Table.empty

theorem measuring_legal_but_for_backslashes :
    IsIri measuring.options.base ∧
      ∀ triple ∈ measuring.triples, ∀ iri ∈ triple.iris,
        IsIri iri ∨ ∃ texts, Iri.Minted measuring.minter texts iri ∧ Iri.WrittenFrom texts iri := by
  have legal : IsIri measuring.options.base := by decide +kernel
  exact ⟨legal, measuring.iris_legal_but_for_backslashes legal⟩

/-- The base is legal and yet not every IRI is: the backslash of the length stays. -/
theorem backslash_of_length_is_kept :
    IsIri measuring.options.base ∧
      ∃ triple ∈ measuring.triples, ∃ iri ∈ triple.iris, ¬IsIri iri := by
  have visited : measuring.Visits "demo" measuredConstant :=
    visits_demo List.mem_cons_self List.mem_cons_self
  have stated : ⟨Iri.member (measuring.moduleIri "demo") "DATA" "", Property.fieldType,
      .iri (measuring.minter.arrayType "u8" "b\"\\n\".len()")⟩ ∈ measuring.triples := by
    have named : measuredConstant.properName? = some "DATA" := Item.properName?_plain (by simp) _
    apply measuring.mem_triples_of_describes (.constant visited rfl)
    simp [constant, named, typeEdge, typeIri?, Step.iri, RustType.displayName]
  refine ⟨by decide +kernel, _, stated, measuring.minter.arrayType "u8" "b\"\\n\".len()", ?_, ?_⟩
  · simp [Rdf.Triple.iris, Rdf.Term.iris]
  · decide +kernel

end Extraction

end CrateGraph
