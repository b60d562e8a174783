import CrateGraph.Extraction.Resolution
import CrateGraph.Proofs.Iri.EntityAddress

/-!
The addresses of one crate's modules, types and implementations tell them apart.
-/

namespace CrateGraph.Extraction

open Iri (Entity)

variable (extraction : Extraction)

def moduleEntity (path : String) : Entity :=
  .module extraction.crateName extraction.crateVersion path

def typeEntity (path : String) : Entity :=
  .type extraction.crateName extraction.crateVersion path

def implementationEntity (id : ItemId) : Entity :=
  .implementation extraction.crateName extraction.crateVersion id

theorem moduleIri_eq (path : String) :
    extraction.moduleIri path = (extraction.moduleEntity path).iri extraction.minter :=
  rfl

theorem typeIri_eq (path : String) :
    extraction.typeIri path = (extraction.typeEntity path).iri extraction.minter :=
  rfl

theorem implementationIri_eq (id : ItemId) :
    extraction.implementationIri id = (extraction.implementationEntity id).iri extraction.minter :=
  rfl

theorem variantIri_eq (path name : String) :
    Iri.variant (extraction.typeIri path) name =
      (Entity.variant (extraction.typeEntity path) name).iri extraction.minter :=
  rfl

theorem moduleIri_injective : Function.Injective extraction.moduleIri := by
  intro left right same
  rw [moduleIri_eq, moduleIri_eq] at same
  simpa [moduleEntity, Entity.bare] using Entity.bare_eq_of_iri_eq same

theorem typeIri_injective : Function.Injective extraction.typeIri := by
  intro left right same
  rw [typeIri_eq, typeIri_eq] at same
  simpa [typeEntity, Entity.bare] using Entity.bare_eq_of_iri_eq same

theorem implementationIri_injective : Function.Injective extraction.implementationIri := by
  intro left right same
  rw [implementationIri_eq, implementationIri_eq] at same
  simpa [implementationEntity, Entity.bare] using Entity.bare_eq_of_iri_eq same

end CrateGraph.Extraction
