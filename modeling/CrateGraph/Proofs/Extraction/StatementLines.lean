import CrateGraph.Proofs.Extraction.AcceptedDocuments
import CrateGraph.Proofs.Extraction.LegalIris
import CrateGraph.Proofs.Rdf.CountedLines

/-!
The lines of an extraction.

The names and texts of a crate are escaped in its addresses and in its literals, so that only the
base can break a line. Main statement: under a base on one line, an extraction is written with as
many lines that state a triple as the writer has counted triples.
-/

namespace CrateGraph

open Rdf (IsIri Unbroken)

variable {extraction : Extraction}

theorem unbroken_of_mem_namespaceNames {name iri : String}
    (named : (name, iri) ∈ Ontology.namespaceNames) : Unbroken (.namespaceName name iri) := by
  have each : ∀ entry ∈ Ontology.namespaceNames, Rdf.Turtle.IsName entry.1 ∧ IsIri entry.2 := by
    decide +kernel
  rcases each _ named with ⟨isName, legal⟩
  exact ⟨isName, legal.not_mem (by decide)⟩

theorem Iri.lineFeed_not_mem_ofBase {base : String} (oneLine : '\n' ∉ base.toList) :
    '\n' ∉ (Minter.ofBase base).base.toList := by
  have within : Text.Within (· ≠ '\n') base :=
    fun _ member isLineFeed => oneLine (isLineFeed ▸ member)
  exact fun member => within_ofBase within '\n' member rfl

namespace Extraction

section OneLine

variable (oneLine : '\n' ∉ extraction.options.base.toList)
include oneLine

theorem IsMinted.lineFeed_not_mem {iri : String} (minted : extraction.IsMinted iri) :
    '\n' ∉ iri.toList := by
  rcases minted with ⟨texts, ofTexts⟩
  exact ofTexts.not_mem (Iri.lineFeed_not_mem_ofBase oneLine) (by decide)

theorem AddressedTriple.unbroken {triple : Rdf.Triple}
    (addressed : extraction.AddressedTriple triple) : Unbroken (.triple triple) := by
  intro iri member
  rcases addressed.isMinted_or_isIri member with minted | legal
  · exact minted.lineFeed_not_mem oneLine
  · exact legal.not_mem (by decide)

theorem unbroken_of_mem_statements {statement : Rdf.Statement}
    (handed : statement ∈ extraction.statements) : Unbroken statement := by
  cases statement with
  | namespaceName name iri =>
      exact unbroken_of_mem_namespaceNames (mem_namespaceNames_of_mem_statementsFrom handed)
  | triple triple =>
      have stated : triple ∈ extraction.triples := List.mem_filterMap.mpr ⟨_, handed, rfl⟩
      exact (extraction.addressedTriple_of_mem_triples stated).unbroken oneLine

/-- The lines that state a triple are those that the writer has counted. -/
theorem length_statementLines (format : Rdf.Format) :
    (Rdf.statementLines (format.write extraction.statements)).length =
      ((Rdf.Writer.ofFormat format).addAll extraction.statements).1.count :=
  Rdf.Writer.length_statementLines_write format fun _ => unbroken_of_mem_statements oneLine

end OneLine

end Extraction

end CrateGraph
