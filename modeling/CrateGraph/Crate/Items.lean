import CrateGraph.Crate.Types

/-!
Items: the declarations of a crate, and the crate that holds them.
-/

namespace CrateGraph

/-! ### What an item declares -/

structure ModuleBody where
  items : List ItemId
  isStripped : Bool
  isCrate : Bool

/-- The fields of a struct; a field that the documentation leaves out of a tuple is `none`. -/
inductive StructFields where
  | unit
  | tuple (fields : List (Option ItemId))
  | plain (fields : List ItemId) (hasStripped : Bool)

inductive VariantFields where
  | plain
  | tuple (fields : List (Option ItemId))
  | struct (fields : List ItemId) (hasStripped : Bool)

structure StructBody where
  fields : StructFields
  generics : Generics
  implementations : List ItemId

structure UnionBody where
  generics : Generics
  fields : List ItemId
  hasStripped : Bool
  implementations : List ItemId

structure EnumBody where
  generics : Generics
  variants : List ItemId
  hasStripped : Bool
  implementations : List ItemId

structure Discriminant where
  expression : Option String
  value : Option String

structure VariantBody where
  fields : VariantFields
  discriminant : Option Discriminant

structure FunctionBody where
  signature : FunctionSignature
  generics : Generics
  header : FunctionHeader
  hasBody : Bool

structure TraitBody where
  generics : Generics
  bounds : List GenericBound
  items : List ItemId
  implementations : List ItemId
  isAuto : Bool
  isUnsafe : Bool
  isDynCompatible : Bool

/-- An implementation block. It is inherent when it names no trait, synthetic when the compiler made
it, and blanket when it comes from one for every type of some kind. -/
structure ImplementationBody where
  generics : Generics
  trait : Option PathReference
  target : RustType
  items : List ItemId
  isUnsafe : Bool
  isNegative : Bool
  isSynthetic : Bool
  blanket : Option RustType

structure UseBody where
  source : String
  name : Option String
  id : Option ItemId
  isGlob : Bool

structure TypeAliasBody where
  generics : Generics
  type : Option RustType

structure ConstantExpression where
  expression : Option String
  value : Option String
  isLiteral : Bool

structure ConstantBody where
  type : RustType
  expression : Option ConstantExpression

structure StaticBody where
  type : RustType
  isMutable : Bool
  isUnsafe : Bool
  expression : Option String

structure AssociatedConstantBody where
  type : RustType
  value : Option String

structure AssociatedTypeBody where
  generics : Generics
  bounds : List GenericBound
  type : Option RustType

inductive ItemBody where
  | module (body : ModuleBody)
  | struct (body : StructBody)
  | union (body : UnionBody)
  | enum (body : EnumBody)
  | variant (body : VariantBody)
  | function (body : FunctionBody)
  | trait (body : TraitBody)
  | implementation (body : ImplementationBody)
  | reexport (body : UseBody)
  | typeAlias (body : TypeAliasBody)
  | constant (body : ConstantBody)
  | static (body : StaticBody)
  | field (type : RustType)
  | macroSource (source : String)
  | associatedConstant (body : AssociatedConstantBody)
  | associatedType (body : AssociatedTypeBody)
  | unknown (tag : Option String)

/-! ### Items -/

inductive Visibility where
  | everywhere
  | inherited
  | crateWide
  | restricted (parent : Option ItemId) (path : Option String)

def Visibility.label : Visibility → String
  | .everywhere => "Public"
  | .inherited => "Private"
  | .restricted _ (some "super") => "Protected"
  | .restricted _ _ => "Internal"
  | .crateWide => "Internal"

/-- One number of a source position, which a document may also give as a truth value. -/
inductive Coordinate where
  | number (value : Int)
  | truth (value : Bool)

structure Span where
  filename : String
  start : Coordinate × Coordinate
  stop : Coordinate × Coordinate

structure Deprecation where
  since : Option String
  note : Option String

structure Item where
  id : Option ItemId
  name : Option String
  visibility : Visibility
  attributes : List (Json String)
  body : ItemBody
  crateId : Int
  docs : Option String
  span : Option Span
  deprecation : Option Deprecation
  links : Table ItemId

/-- The name of an item, where an empty one counts as none. -/
def Item.properName? (item : Item) : Option String :=
  item.name.filter (· != "")

/-! ### Crates -/

inductive ItemKind where
  | module
  | externCrate
  | reexport
  | struct
  | structField
  | union
  | enum
  | variant
  | function
  | typeAlias
  | constant
  | trait
  | traitAlias
  | implementation
  | static
  | externType
  | macroItem
  | procAttribute
  | procDerive
  | associatedConstant
  | associatedType
  | primitive
  | keyword
  | unknown
deriving DecidableEq

namespace ItemKind

def tags : List (String × ItemKind) :=
  [("module", .module), ("extern_crate", .externCrate), ("use", .reexport), ("struct", .struct),
    ("struct_field", .structField), ("union", .union), ("enum", .enum), ("variant", .variant),
    ("function", .function), ("type_alias", .typeAlias), ("constant", .constant),
    ("trait", .trait), ("trait_alias", .traitAlias), ("impl", .implementation),
    ("static", .static), ("extern_type", .externType), ("macro", .macroItem),
    ("proc_attribute", .procAttribute), ("proc_derive", .procDerive),
    ("assoc_const", .associatedConstant), ("assoc_type", .associatedType),
    ("primitive", .primitive), ("keyword", .keyword), ("unknown", .unknown)]

def tag (kind : ItemKind) : String :=
  ((tags.find? (·.2 == kind)).map Prod.fst).getD "unknown"

def ofTag (tag : String) : ItemKind :=
  if tag = "typedef" then .typeAlias else (Entries.get? tag tags).getD .unknown

end ItemKind

structure ItemSummary where
  path : List String
  kind : ItemKind
  crateId : Int

def ItemSummary.fullPath (summary : ItemSummary) : String :=
  String.intercalate "::" summary.path

structure ExternalCrate where
  name : String
  htmlRootUrl : Option String

structure Crate where
  root : ItemId
  version : Option String
  index : Table Item
  paths : Table ItemSummary
  externalCrates : Table ExternalCrate
  formatVersion : Int
  includesPrivate : Bool

namespace Crate

def rootItem? (crate : Crate) : Option Item :=
  crate.index.get? crate.root

def unnamed : String := "unknown"

def name (crate : Crate) : String :=
  (crate.rootItem?.bind Item.properName?).getD unnamed

end Crate

end CrateGraph
