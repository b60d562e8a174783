import CrateGraph.Proofs.Decimal.WholeNumbers
import CrateGraph.Proofs.Extraction.AcceptedDocuments
import CrateGraph.Proofs.Extraction.LegalIris
import CrateGraph.Proofs.Rdf.CollectedTriples

/-!
Extractions that are collected in a graph.

The values of a description are ordinals and truth, both written the way a graph holds them. Main
statements: a graph takes a whole run and holds each of its triples once, as the run stated it,
while the count is that of all triples; and under a legal base the graph has lines unless an address
in it has kept a backslash.
-/

namespace CrateGraph

open Rdf (IsIri)

/-! ### Values -/

namespace Rdf

theorem canonicalText_number (number : Nat) :
    canonicalText (toString (number : Int)) xsdInteger = .ok (toString (number : Int)) := by
  have datatype : Datatype.ofIri? xsdInteger = some .integer := by decide +kernel
  simp only [canonicalText, datatype, Datatype.canonical?]
  rw [Decimal.wholeNumber?_toString]
  split <;> rfl

theorem canonicalText_true : canonicalText "true" xsdBoolean = .ok "true" := by
  decide +kernel

end Rdf

namespace Extraction

/-- A lexicon that looks at values alone, and has those that are canonical. -/
def canonicalLexicon : Lexicon :=
  .ofTexts (fun _ => True) fun text datatype => Rdf.canonicalText text datatype = .ok text

theorem canonical_of_covers {step : Step} (covers : canonicalLexicon.Covers step)
    {triple : Rdf.Triple} (written : triple ∈ Progress.mayWrite step) :
    triple.canonical = .ok triple := by
  cases covers with
  | classOf | edge | text =>
      cases List.mem_singleton.mp written
      rfl
  | value _ _ canonical =>
      cases List.mem_singleton.mp written
      rw [Rdf.Triple.canonical, Rdf.Term.canonical, show Rdf.canonicalText _ _ = _ from canonical]
      rfl
  | mention =>
      simp only [Progress.mayWrite, Progress.stubNode, List.mem_cons, List.not_mem_nil,
        or_false] at written
      rcases written with rfl | rfl <;> rfl
  | countFunction | countUnresolved => cases written

theorem knowsWords_canonicalLexicon (extraction : Extraction) :
    canonicalLexicon.KnowsWords extraction where
  own _ _ := trivial
  extendPath _ _ := trivial
  item _ _ _ := trivial
  version := trivial
  dependency _ := trivial

/-! ### Runs -/

variable {extraction : Extraction}

theorem canonical_of_mem_triples {triple : Rdf.Triple} (stated : triple ∈ extraction.triples) :
    triple.canonical = .ok triple := by
  rcases List.mem_flatMap.mp (extraction.triples_subset_mayWrite stated) with ⟨step, own, written⟩
  rcases List.mem_flatMap.mp own with ⟨entry, member, inEntry⟩
  have suits : canonicalLexicon.Suits extraction :=
    Lexicon.suits_ofTexts extraction Rdf.canonicalText_true Rdf.canonicalText_number
  exact canonical_of_covers (covers_of_mem_outline suits (Lexicon.knowsNodes_ofTexts extraction)
    (knowsWords_canonicalLexicon extraction) (Lexicon.allows_ofTexts _) member step inEntry) written

theorem isTaken_of_mem_statements {statement : Rdf.Statement}
    (handed : statement ∈ extraction.statements) : statement.IsTaken := by
  cases statement with
  | namespaceName name iri =>
      have plain : ∀ entry ∈ Ontology.namespaceNames, ' ' ∉ entry.1.toList := by decide +kernel
      exact plain _ (mem_namespaceNames_of_mem_statementsFrom handed)
  | triple triple =>
      have stated : triple ∈ extraction.triples := List.mem_filterMap.mpr ⟨_, handed, rfl⟩
      exact ⟨triple, canonical_of_mem_triples stated⟩

theorem filterMap_canonical?_statements :
    extraction.statements.filterMap Rdf.Statement.canonical? = extraction.triples := by
  apply List.filterMap_congr
  intro statement handed
  cases statement with
  | namespaceName => rfl
  | triple triple =>
      have stated : triple ∈ extraction.triples := List.mem_filterMap.mpr ⟨_, handed, rfl⟩
      rw [Rdf.Statement.canonical?, canonical_of_mem_triples stated]
      rfl

variable (extraction)

/-- A graph takes a whole run. It holds the triples of the run, each once and where it first came,
and counts all of them. -/
theorem collected_run :
    ∃ last, (Rdf.Collector.ofGraph .empty).addAll extraction.statements = (last, none) ∧
      last.graph.triples = extraction.triples.eraseDups ∧
      last.count = extraction.triples.length := by
  have taken : ∀ statement ∈ extraction.statements, statement.IsTaken :=
    fun _ => isTaken_of_mem_statements
  rcases Rdf.Collector.addAll_empty taken with ⟨last, all, held, counted⟩
  rw [filterMap_canonical?_statements] at held
  exact ⟨last, all, held, counted⟩

end Extraction

/-! ### Lines -/

namespace Rdf.Graph

theorem exists_illegal_of_not_isWritable {iri : String} (unwritable : isWritable iri = false) :
    ∃ character ∈ iri.toList, isIriCharacter character = false := by
  rw [isWritable, List.all_eq_false] at unwritable
  rcases unwritable with ⟨character, member, refused⟩
  have allIllegal : "<>\" \x7b\x7d|\\^`".toList.all (!isIriCharacter ·) := by decide
  simp only [Bool.not_eq_true, Bool.not_eq_false', List.contains_iff_mem] at refused
  refine ⟨character, member, ?_⟩
  simpa using List.all_eq_true.mp allIllegal character refused

theorem mem_iris_of_mem_addresses {triple : Triple} {iri : String}
    (place : iri ∈ addresses triple) : iri ∈ triple.iris := by
  rcases triple with ⟨subject, predicate, object⟩
  cases object with
  | iri => exact place
  | literal | typed => exact List.mem_append_left _ place

end Rdf.Graph

namespace Extraction

variable {extraction : Extraction} {graph : Rdf.Graph}

/-- Under a legal base the graph of a run has lines, unless an address holds a backslash that came
in with one of its texts. -/
theorem backslash_of_lines_eq_error (legal : IsIri extraction.options.base)
    (held : graph.triples = extraction.triples.eraseDups) {fault : Rdf.GraphFault}
    (refused : graph.lines = .error fault) :
    ∃ texts iri, fault = .unwritable iri ∧ Iri.Minted extraction.minter texts iri ∧
      ∃ text ∈ texts, '\\' ∈ text.toList := by
  rcases Rdf.Graph.mem_of_lines_eq_error refused with
    ⟨triple, member, iri, place, unwritable, rfl⟩
  rcases Rdf.Graph.exists_illegal_of_not_isWritable unwritable with ⟨character, inIri, illegal⟩
  have notLegal : ¬Rdf.isIriCharacter character := by simp [illegal]
  rw [held, List.mem_eraseDups] at member
  have addressed := extraction.addressedTriple_of_mem_triples member
  rcases addressed.isMinted_or_isIri (Rdf.Graph.mem_iris_of_mem_addresses place) with
    minted | isLegal
  · rcases minted.written legal with ⟨texts, ofTexts, written⟩
    exact ⟨texts, iri, rfl, ofTexts, ((written character inIri).resolve_left notLegal).2⟩
  · exact absurd (isLegal character inIri) notLegal

end Extraction

end CrateGraph
