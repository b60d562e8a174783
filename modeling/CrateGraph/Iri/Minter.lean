import CrateGraph.Iri.Escape

/-!
The addresses of a crate's entities.

An address is made of the names and paths that identify an entity, never of a counter, so a crate
has the same addresses on every run. Crates, modules, types and implementations are addressed under
a base; members, parameters and the like under their owner.
-/

namespace CrateGraph.Iri

structure Minter where
  base : String

namespace Minter

def ofBase (base : String) : Minter :=
  ⟨String.ofList (base.toList.reverse.dropWhile (· == '/')).reverse⟩

/-! ### Named entities -/

def crate (minter : Minter) (name version : String) : String :=
  minter.base ++ "/crate/" ++ escape name ++ "/" ++ escape version

def module (minter : Minter) (crateName version path : String) : String :=
  minter.base ++ "/module/" ++ escape crateName ++ "/" ++ escape version ++ "/" ++ escape path

def type (minter : Minter) (crateName version path : String) : String :=
  minter.base ++ "/type/" ++ escape crateName ++ "/" ++ escape version ++ "/" ++ escape path

def implementation (minter : Minter) (crateName version id : String) : String :=
  minter.base ++ "/impl/" ++ escape crateName ++ "/" ++ escape version ++ "/" ++ escape id

/-! ### Types that have no declaration -/

def primitiveType (minter : Minter) (name : String) : String :=
  minter.base ++ "/type/_primitive_/" ++ escape name

def tupleType (minter : Minter) (arity : Int) : String :=
  minter.base ++ "/type/_tuple_/" ++ toString arity

def sliceType (minter : Minter) (element : String) : String :=
  minter.base ++ "/type/_slice_/" ++ escape element

def arrayType (minter : Minter) (element length : String) : String :=
  minter.base ++ "/type/_array_/" ++ escape element ++ "/" ++ escape length

def referenceType (minter : Minter) (target : String) (isMutable : Bool) : String :=
  minter.base ++ "/type/" ++ (if isMutable then "_mut_" else "_ref_") ++ "/" ++ escape target

def pointerType (minter : Minter) (target : String) (isMutable : Bool) : String :=
  minter.base ++ "/type/" ++ (if isMutable then "_ptr_mut_" else "_ptr_const_") ++ "/" ++
    escape target

end Minter

/-! ### Entities under an owner -/

def member (owner name signature : String) : String :=
  if signature = "" then owner ++ "/member/" ++ escape name
  else owner ++ "/member/" ++ escape name ++ "(" ++ escape signature ++ ")"

def parameter (owner : String) (ordinal : Int) : String :=
  owner ++ "/param/" ++ toString ordinal

def typeParameter (owner : String) (ordinal : Int) : String :=
  owner ++ "/typeparam/" ++ toString ordinal

def bareLifetime (name : String) : String :=
  match name.toList with
  | '\'' :: rest => String.ofList rest
  | _ => name

def lifetime (owner name : String) : String :=
  owner ++ "/lifetime/" ++ escape (bareLifetime name)

def variant (owner name : String) : String :=
  owner ++ "/variant/" ++ escape name

example : (Minter.ofBase "http://x//").type "serde" "1.0" "serde::de" =
    "http://x/type/serde/1.0/serde%3A%3Ade" := by
  decide +kernel

end CrateGraph.Iri
