import CrateGraph.Crate.Items
import CrateGraph.Extraction.Options
import CrateGraph.Iri.Minter

/-!
The addresses of one crate: of the crate itself, of its modules and types, and of what its types
refer to.
-/

namespace CrateGraph

structure Extraction where
  crate : Crate
  options : ExtractionOptions

def pathSeparator : String := "::"

def extendPath (path name : String) : String :=
  path ++ pathSeparator ++ name

def unknownVersion : String := "0.0.0"

namespace Extraction

def minter (extraction : Extraction) : Iri.Minter :=
  Iri.Minter.ofBase extraction.options.base

def crateName (extraction : Extraction) : String :=
  extraction.crate.name

def crateVersion (extraction : Extraction) : String :=
  (extraction.crate.version.filter (· != "")).getD unknownVersion

def crateIri (extraction : Extraction) : String :=
  extraction.minter.crate extraction.crateName extraction.crateVersion

def moduleIri (extraction : Extraction) (path : String) : String :=
  extraction.minter.module extraction.crateName extraction.crateVersion path

def typeIri (extraction : Extraction) (path : String) : String :=
  extraction.minter.type extraction.crateName extraction.crateVersion path

def implementationIri (extraction : Extraction) (id : ItemId) : String :=
  extraction.minter.implementation extraction.crateName extraction.crateVersion id

def item? (extraction : Extraction) (id : ItemId) : Option Item :=
  extraction.crate.index.get? id

/-- The path that a reference leads to: the full path of its item where the summaries have one, else
the name of its item where the index has one, else the path as written. -/
def referencedPath (extraction : Extraction) (reference : PathReference) : String :=
  match reference.id with
  | none => reference.path
  | some id =>
      match extraction.crate.paths.get? id with
      | some summary => summary.fullPath
      | none => ((extraction.item? id).bind Item.properName?).getD reference.path

def referenceIri (extraction : Extraction) (reference : PathReference) : String :=
  extraction.typeIri (extraction.referencedPath reference)

/-- The address of a type. Type parameters, function pointers, qualified paths, `impl` and `dyn`
types and placeholders have none. -/
def typeIri? (extraction : Extraction) : RustType → Option String
  | .path reference => some (extraction.referenceIri reference)
  | .primitive name => some (extraction.minter.primitiveType name)
  | .tuple elements => some (extraction.minter.tupleType elements.length)
  | .slice element => some (extraction.minter.sliceType element.displayName)
  | .array element length => some (extraction.minter.arrayType element.displayName length)
  | .rawPointer target isMutable =>
      some (extraction.minter.pointerType target.displayName isMutable)
  | .borrowed target isMutable _ =>
      some (extraction.minter.referenceType target.displayName isMutable)
  | .functionPointer .. => none
  | .qualified .. => none
  | .implTrait _ => none
  | .dynTrait .. => none
  | .infer => none
  | .generic _ => none
  | .unknown _ => none

end Extraction

end CrateGraph
