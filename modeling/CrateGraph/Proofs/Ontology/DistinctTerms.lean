import CrateGraph.Ontology

/-!
Terms of the vocabulary are different where their names are.

The three namespaces have no term in common, so that `simp` decides whether two terms are equal
once it is told their names.
-/

namespace CrateGraph.Ontology

@[simp] theorem shared_inj {left right : String} : shared left = shared right ↔ left = right := by
  simp [shared, ← String.toList_inj]

@[simp] theorem rust_inj {left right : String} : rust left = rust right ↔ left = right := by
  simp [rust, ← String.toList_inj]

@[simp] theorem shared_ne_rust (left right : String) : shared left ≠ rust right := by
  simp [shared, rust, sharedNamespace, rustNamespace, ← String.toList_inj]

@[simp] theorem rust_ne_shared (left right : String) : rust left ≠ shared right :=
  (shared_ne_rust right left).symm

@[simp] theorem shared_ne_type (term : String) : shared term ≠ Property.type := by
  simp [shared, Property.type, sharedNamespace, rdfNamespace, ← String.toList_inj]

@[simp] theorem rust_ne_type (term : String) : rust term ≠ Property.type := by
  simp [rust, Property.type, rustNamespace, rdfNamespace, ← String.toList_inj]

@[simp] theorem type_ne_shared (term : String) : Property.type ≠ shared term :=
  (shared_ne_type term).symm

@[simp] theorem type_ne_rust (term : String) : Property.type ≠ rust term :=
  (rust_ne_type term).symm

end CrateGraph.Ontology
