import CrateGraph.Proofs.Crate.TypeForms
import CrateGraph.Proofs.Extraction.Descriptions
import CrateGraph.Proofs.Iri.BuiltInTypes

/-!
Addresses of types that are made of other types.

The address of a slice, array, reference or pointer holds a marker for what it is and the display
name of the type inside. Main statement: display names tell how types are put together, and so such
types share an address exactly if they wrap types of the same form in the same way.
-/

namespace CrateGraph

namespace Iri

theorem BuiltIn.iri_injective (minter : Minter) : Function.Injective (BuiltIn.iri minter) := by
  intro left right same
  apply BuiltIn.segments_injective
  apply segments_eq_of_toList_eq left.slash_not_mem_segments right.slash_not_mem_segments
  rw [← BuiltIn.toList_iri, ← BuiltIn.toList_iri, same]

end Iri

/-- A type made of a type with the name given, as its address tells it. -/
def Wrapper.builtIn (name : String) : Wrapper → Iri.BuiltIn
  | slice => .slice name
  | array length => .array name length
  | reference isMutable => .reference name isMutable
  | pointer isMutable => .pointer name isMutable

theorem Wrapper.builtIn_inj {wrapper other : Wrapper} {name otherName : String} :
    wrapper.builtIn name = other.builtIn otherName ↔ wrapper = other ∧ name = otherName := by
  cases wrapper <;> cases other <;> simp [builtIn, and_comm]

namespace Extraction

theorem typeIri?_of_form (extraction : Extraction) {type : RustType} {wrapper : Wrapper}
    {inner : TypeForm} (form : type.form = .wrapped wrapper inner) :
    extraction.typeIri? type =
      some ((wrapper.builtIn (String.ofList inner.text)).iri extraction.minter) := by
  have named : ∀ target : RustType, String.ofList target.form.text = target.displayName := by
    intro target
    rw [← target.toList_displayName, String.ofList_toList]
  cases type with
  | slice element | array element | borrowed element | rawPointer element =>
      cases form
      rw [named]
      rfl
  | _ => cases form

/-- A display name tells how its type is put together. So types that are each made of one other type
share an address only if they are made in the same way, of types that are put together alike. -/
theorem composite_types_are_told_apart :
    (∀ left right : RustType, left.form.Named → right.form.Named →
      (left.displayName = right.displayName ↔ left.form = right.form)) ∧
    ∀ (extraction : Extraction) (left right : RustType) (wrapper otherWrapper : Wrapper)
      (inner otherInner : TypeForm),
      left.form = .wrapped wrapper inner → right.form = .wrapped otherWrapper otherInner →
      inner.Named → otherInner.Named →
      ∃ iri, extraction.typeIri? left = some iri ∧
        (extraction.typeIri? right = some iri ↔
          wrapper = otherWrapper ∧ inner = otherInner) := by
  refine ⟨fun left right named otherNamed => RustType.displayName_eq_iff named otherNamed, ?_⟩
  intro extraction left right wrapper otherWrapper inner otherInner form otherForm named otherNamed
  refine ⟨_, extraction.typeIri?_of_form form, ?_⟩
  rw [extraction.typeIri?_of_form otherForm, eq_comm, Option.some.injEq,
    (Iri.BuiltIn.iri_injective _).eq_iff, Wrapper.builtIn_inj, String.ofList_inj,
    named.text_inj otherNamed]

/-- Four pairs of a byte and a `T`. -/
def bytePairs : RustType :=
  .array (.tuple [.primitive "u8", .generic "T"]) "4"

/-- Four pairs of the same names, which are paths here. -/
def pathPairs : RustType :=
  .array (.tuple [.path ⟨"u8", some "7", none⟩, .path ⟨"T", none, none⟩]) "4"

theorem named_bytePairs : bytePairs.form.Named := by
  refine .wrapped (show TypeForm.IsName "4" by decide +kernel) (.tuple ?_)
  rw [RustType.forms, RustType.forms, RustType.forms, List.forall_mem_cons,
    List.forall_mem_singleton]
  exact ⟨.leaf (by decide +kernel), .leaf (by decide +kernel)⟩

/-- The pairs have the same display name, and a mutable reference to the ones is told apart from a
shared reference to the others. -/
theorem references_to_pairs_are_told_apart :
    bytePairs.form.Named ∧ pathPairs.form.Named ∧
    bytePairs.displayName = pathPairs.displayName ∧
    (RustType.borrowed bytePairs true none).form = .wrapped (.reference true) bytePairs.form ∧
    (RustType.borrowed pathPairs false (some "'a")).form =
      .wrapped (.reference false) pathPairs.form ∧
    ∃ iri, (demo [] [] Table.empty).typeIri? (.borrowed bytePairs true none) = some iri ∧
      (demo [] [] Table.empty).typeIri? (.borrowed pathPairs false (some "'a")) ≠ some iri := by
  have forms : bytePairs.form = pathPairs.form := rfl
  have named : pathPairs.form.Named := forms ▸ named_bytePairs
  have names := (composite_types_are_told_apart.1 _ _ named_bytePairs named).mpr forms
  have addresses := composite_types_are_told_apart.2 (demo [] [] Table.empty)
    (.borrowed bytePairs true none) (.borrowed pathPairs false (some "'a")) _ _ _ _ rfl rfl
    named_bytePairs named
  rcases addresses with ⟨iri, own, shared⟩
  refine ⟨named_bytePairs, named, names, rfl, rfl, iri, own, fun same => ?_⟩
  cases (shared.mp same).1

end Extraction

end CrateGraph
