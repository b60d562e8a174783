import CrateGraph.Proofs.Iri.EntityAddress
import Mathlib

/-!
Addresses of types that no crate declares, next to those of declared types.

Where the address of a declared type has the name of its crate, that of a built-in type has a marker
such as `_slice_`. Escaping keeps underscores, so a crate's name may read like a marker, and then
only the number of segments tells the two apart.

Main statement: built-in types have the same address only if they are the same type, and a declared
type has the address of a built-in one exactly if its crate is named `_array_`, for arrays are the
built-in types whose addresses have as many segments as those of declared types.
-/

namespace CrateGraph.Iri

open Entity (afterSlash splitOn_afterSlash)

/-- A type that is declared in no crate, with what its address tells about it. -/
inductive BuiltIn where
  | primitive (name : String)
  | tuple (arity : Int)
  | slice (element : String)
  | array (element length : String)
  | reference (target : String) (isMutable : Bool)
  | pointer (target : String) (isMutable : Bool)
deriving DecidableEq

namespace BuiltIn

def iri (minter : Minter) : BuiltIn → String
  | primitive name => minter.primitiveType name
  | tuple arity => minter.tupleType arity
  | slice element => minter.sliceType element
  | array element length => minter.arrayType element length
  | reference target isMutable => minter.referenceType target isMutable
  | pointer target isMutable => minter.pointerType target isMutable

/-! ### Segments -/

/-- The marker is the second segment. -/
def segments : BuiltIn → List String
  | primitive name => ["type", "_primitive_", escape name]
  | tuple arity => ["type", "_tuple_", toString arity]
  | slice element => ["type", "_slice_", escape element]
  | array element length => ["type", "_array_", escape element, escape length]
  | reference target isMutable =>
      ["type", if isMutable then "_mut_" else "_ref_", escape target]
  | pointer target isMutable =>
      ["type", if isMutable then "_ptr_mut_" else "_ptr_const_", escape target]

theorem toList_iri (minter : Minter) (builtIn : BuiltIn) :
    (builtIn.iri minter).toList = minter.base.toList ++ builtIn.segments.flatMap afterSlash := by
  cases builtIn with
  | primitive => simp [iri, segments, afterSlash, Minter.primitiveType]
  | tuple => simp [iri, segments, afterSlash, Minter.tupleType]
  | slice => simp [iri, segments, afterSlash, Minter.sliceType]
  | array => simp [iri, segments, afterSlash, Minter.arrayType]
  | reference => simp [iri, segments, afterSlash, Minter.referenceType]
  | pointer => simp [iri, segments, afterSlash, Minter.pointerType]

theorem slash_not_mem_toString (number : Int) : '/' ∉ (toString number).toList := by
  cases number with
  | ofNat number => exact Entity.slash_not_mem_repr number
  | negSucc number =>
      have parts : (toString (Int.negSucc number)).toList = '-' :: (number + 1).repr.toList :=
        String.toList_append
      rw [parts, List.mem_cons, not_or]
      exact ⟨by decide, Entity.slash_not_mem_repr _⟩

theorem slash_not_mem_segments (builtIn : BuiltIn) :
    ∀ segment ∈ builtIn.segments, '/' ∉ segment.toList := by
  have inEscape : ∀ text, '/' ∉ (escape text).toList := not_mem_escape (by decide)
  cases builtIn with
  | primitive | slice | array => simp [segments, inEscape]
  | tuple arity =>
      simp only [segments, List.forall_mem_cons]
      exact ⟨by decide, by decide, slash_not_mem_toString arity, by simp⟩
  | reference _ isMutable | pointer _ isMutable => cases isMutable <;> simp [segments, inEscape]

/-! ### Reading a type from its segments -/

def readSegments? : List String → Option BuiltIn
  | ["type", "_primitive_", name] => (unescape? name.toList).map primitive
  | ["type", "_tuple_", arity] => arity.toInt?.map tuple
  | ["type", "_slice_", element] => (unescape? element.toList).map slice
  | ["type", "_array_", element, length] =>
      (unescape? element.toList).bind fun element => (unescape? length.toList).map (array element)
  | ["type", "_ref_", target] => (unescape? target.toList).map (reference · false)
  | ["type", "_mut_", target] => (unescape? target.toList).map (reference · true)
  | ["type", "_ptr_const_", target] => (unescape? target.toList).map (pointer · false)
  | ["type", "_ptr_mut_", target] => (unescape? target.toList).map (pointer · true)
  | _ => none

theorem readSegments?_segments (builtIn : BuiltIn) :
    readSegments? builtIn.segments = some builtIn := by
  cases builtIn with
  | primitive | slice | array => simp [segments, readSegments?, unescape?_escape]
  | tuple => simp [segments, readSegments?]
  | reference _ isMutable | pointer _ isMutable =>
      cases isMutable <;> simp [segments, readSegments?, unescape?_escape]

theorem segments_injective : Function.Injective segments := by
  intro left right same
  apply Option.some.inj
  rw [← readSegments?_segments left, ← readSegments?_segments right, same]

end BuiltIn

/-- Addresses under one base are the same only if they have the same segments. -/
theorem segments_eq_of_toList_eq {base : List Char} {left right : List String}
    (singleLeft : ∀ segment ∈ left, '/' ∉ segment.toList)
    (singleRight : ∀ segment ∈ right, '/' ∉ segment.toList)
    (same : base ++ left.flatMap afterSlash = base ++ right.flatMap afterSlash) : left = right := by
  have readLeft := splitOn_afterSlash List.not_mem_nil singleLeft
  have readRight := splitOn_afterSlash List.not_mem_nil singleRight
  rw [List.append_cancel_left same, readRight, List.cons_inj_right] at readLeft
  exact List.map_injective_iff.mpr (fun _ _ => String.toList_inj.mp) readLeft.symm

/-- A type of a crate named like the marker of arrays is taken for an array. Apart from that, no
declared type has the address of a built-in one, and no two built-in types have the same. -/
theorem shared_addresses_are_arrays (base : String) :
    (∀ (crateName version path : String) (builtIn : BuiltIn),
      (Minter.ofBase base).type crateName version path = builtIn.iri (Minter.ofBase base) ↔
        crateName = "_array_" ∧ builtIn = .array version path) ∧
    ∀ left right : BuiltIn,
      left.iri (Minter.ofBase base) = right.iri (Minter.ofBase base) ↔ left = right := by
  have marker : escape "_array_" = "_array_" := by decide +kernel
  refine ⟨fun crateName version path builtIn => ⟨?_, ?_⟩, fun left right => ⟨?_, ?_⟩⟩
  · intro same
    have segments : (Entity.type crateName version path).segments = builtIn.segments := by
      apply segments_eq_of_toList_eq (Entity.slash_not_mem_segments _)
        builtIn.slash_not_mem_segments
      rw [← BuiltIn.toList_iri, ← same]
      exact (Entity.toList_iri _ (.type crateName version path)).symm
    cases builtIn with
    | array element length =>
        simp only [Entity.segments, BuiltIn.segments, List.cons.injEq, true_and, and_true]
          at segments
        rcases segments with ⟨name, elements, lengths⟩
        rw [← marker] at name
        exact ⟨escape_injective name, by rw [escape_injective elements, escape_injective lengths]⟩
    | _ => simp [Entity.segments, BuiltIn.segments] at segments
  · rintro ⟨rfl, rfl⟩
    rw [← String.toList_inj, BuiltIn.toList_iri]
    simp [BuiltIn.segments, afterSlash, Minter.type, marker]
  · intro same
    apply BuiltIn.segments_injective
    apply segments_eq_of_toList_eq left.slash_not_mem_segments right.slash_not_mem_segments
    rw [← BuiltIn.toList_iri, ← BuiltIn.toList_iri, same]
  · exact congrArg _

/-- Four bytes in a row, and what a crate `_array_` may declare. -/
theorem declared_type_has_address_of_array :
    (Minter.ofBase "http://x").type "_array_" "u8" "4" =
      (Minter.ofBase "http://x").arrayType "u8" "4" := by
  decide +kernel

end CrateGraph.Iri
