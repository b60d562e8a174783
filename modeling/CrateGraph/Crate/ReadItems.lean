import CrateGraph.Crate.Items
import CrateGraph.Crate.ReadTypes

/-!
Reading of items and of whole documents.

Nothing inside an item can make a document unreadable: only the document itself has to be an object
with a usable root.
-/

namespace CrateGraph

/-! ### What an item declares -/

def ModuleBody.ofJson (value : Json String) : ModuleBody where
  items := (value.field "items").ids
  isStripped := value.flag ["is_stripped"]
  isCrate := value.flag ["is_crate"]

def StructFields.ofJson (value : Json String) : StructFields :=
  match value.tagged? with
  | some ("tuple", payload) => .tuple payload.optionalIds
  | some ("plain", payload) =>
      .plain (payload.field "fields").ids
        (payload.flag ["has_stripped_fields", "fields_stripped"])
  | _ => .unit

def VariantFields.ofJson (value : Json String) : VariantFields :=
  match value.tagged? with
  | some ("tuple", payload) => .tuple payload.optionalIds
  | some ("struct", payload) =>
      .struct (payload.field "fields").ids
        (payload.flag ["has_stripped_fields", "fields_stripped"])
  | _ => .plain

def StructBody.ofJson (value : Json String) : StructBody where
  fields := StructFields.ofJson (value.field "kind")
  generics := Generics.ofJson (value.field "generics")
  implementations := (value.field "impls").ids

def UnionBody.ofJson (value : Json String) : UnionBody where
  generics := Generics.ofJson (value.field "generics")
  fields := (value.field "fields").ids
  hasStripped := value.flag ["has_stripped_fields", "fields_stripped"]
  implementations := (value.field "impls").ids

def EnumBody.ofJson (value : Json String) : EnumBody where
  generics := Generics.ofJson (value.field "generics")
  variants := (value.field "variants").ids
  hasStripped := value.flag ["variants_stripped", "has_stripped_variants"]
  implementations := (value.field "impls").ids

def Discriminant.ofJson (value : Json String) : Discriminant where
  expression := value.string? ["expr"]
  value := value.string? ["value"]

def VariantBody.ofJson (value : Json String) : VariantBody where
  fields := VariantFields.ofJson (value.field "kind")
  discriminant :=
    if (value.field "discriminant").isObject then
      some (Discriminant.ofJson (value.field "discriminant"))
    else none

def FunctionBody.ofJson (value : Json String) : FunctionBody where
  signature := FunctionSignature.ofJson (value.either "sig" "decl")
  generics := Generics.ofJson (value.field "generics")
  header := FunctionHeader.ofJson (value.field "header")
  hasBody := value.flag ["has_body"]

def TraitBody.ofJson (value : Json String) : TraitBody where
  generics := Generics.ofJson (value.field "generics")
  bounds := (value.list "bounds").map GenericBound.ofJson
  items := (value.field "items").ids
  implementations := (value.field "implementations").ids
  isAuto := value.flag ["is_auto"]
  isUnsafe := value.flag ["is_unsafe"]
  isDynCompatible := value.flag ["is_dyn_compatible", "is_object_safe"]

def ImplementationBody.ofJson (value : Json String) : ImplementationBody where
  generics := Generics.ofJson (value.field "generics")
  trait := (value.given? "trait").map PathReference.ofJson
  target := RustType.ofJson (value.field "for")
  items := (value.field "items").ids
  isUnsafe := value.flag ["is_unsafe"]
  isNegative := value.flag ["is_negative", "negative"]
  isSynthetic := value.flag ["is_synthetic", "synthetic"]
  blanket := (value.given? "blanket_impl").map RustType.ofJson

def UseBody.ofJson (value : Json String) : UseBody where
  source := value.string ["source"]
  name := value.string? ["name"]
  id := (value.field "id").id?
  isGlob := value.flag ["is_glob", "glob"]

def TypeAliasBody.ofJson (value : Json String) : TypeAliasBody where
  generics := Generics.ofJson (value.field "generics")
  type := (value.given? "type").map RustType.ofJson

def ConstantExpression.ofJson (value : Json String) : ConstantExpression where
  expression := value.string? ["expr"]
  value := value.string? ["value"]
  isLiteral := value.flag ["is_literal"]

/-- The expression of a constant stands under `const` or, in older documents, among the fields of
the constant itself. -/
def ConstantBody.ofJson (value : Json String) : ConstantBody where
  type := RustType.ofJson (value.field "type")
  expression :=
    if (value.field "const").isObject then some (ConstantExpression.ofJson (value.field "const"))
    else if (Entries.get? "expr" value.record).isSome || (Entries.get? "value" value.record).isSome
    then some (ConstantExpression.ofJson value)
    else none

def StaticBody.ofJson (value : Json String) : StaticBody where
  type := RustType.ofJson (value.field "type")
  isMutable := value.flag ["is_mutable", "mutable"]
  isUnsafe := value.flag ["is_unsafe"]
  expression := value.string? ["expr"]

def AssociatedConstantBody.ofJson (value : Json String) : AssociatedConstantBody where
  type := RustType.ofJson (value.field "type")
  value := value.string? ["value", "default"]

def AssociatedTypeBody.ofJson (value : Json String) : AssociatedTypeBody where
  generics := Generics.ofJson (value.field "generics")
  bounds := (value.list "bounds").map GenericBound.ofJson
  type :=
    match value.either "type" "default" with
    | .null => none
    | type => some (RustType.ofJson type)

def ItemBody.ofJson (value : Json String) : ItemBody :=
  match value.tagged? with
  | none => .unknown none
  | some (tag, payload) =>
      match tag with
      | "struct_field" => .field (RustType.ofJson payload)
      | "macro" => .macroSource (payload.text?.getD "")
      | "module" => .module (ModuleBody.ofJson payload)
      | "struct" => .struct (StructBody.ofJson payload)
      | "union" => .union (UnionBody.ofJson payload)
      | "enum" => .enum (EnumBody.ofJson payload)
      | "variant" => .variant (VariantBody.ofJson payload)
      | "function" => .function (FunctionBody.ofJson payload)
      | "trait" => .trait (TraitBody.ofJson payload)
      | "impl" => .implementation (ImplementationBody.ofJson payload)
      | "use" => .reexport (UseBody.ofJson payload)
      | "import" => .reexport (UseBody.ofJson payload)
      | "type_alias" => .typeAlias (TypeAliasBody.ofJson payload)
      | "typedef" => .typeAlias (TypeAliasBody.ofJson payload)
      | "constant" => .constant (ConstantBody.ofJson payload)
      | "static" => .static (StaticBody.ofJson payload)
      | "assoc_const" => .associatedConstant (AssociatedConstantBody.ofJson payload)
      | "assoc_type" => .associatedType (AssociatedTypeBody.ofJson payload)
      | _ => .unknown (some tag)

/-! ### Items -/

/-- An unknown visibility counts as visible everywhere. -/
def Visibility.ofJson (value : Json String) : Visibility :=
  match value.tagged? with
  | some ("restricted", payload) =>
      .restricted (payload.field "parent").id? (payload.string? ["path"])
  | some ("default", _) => .inherited
  | some ("crate", _) => .crateWide
  | _ => .everywhere

def Coordinate.ofJson? : Json String → Option Coordinate
  | .int value => some (.number value)
  | .bool value => some (.truth value)
  | _ => none

def Span.positionOfJson (value : Json String) : Coordinate × Coordinate :=
  match value.items.map Coordinate.ofJson? with
  | [some line, some column] => (line, column)
  | _ => (.number 0, .number 0)

def Span.ofJson? (value : Json String) : Option Span :=
  if value.isObject then
    some
      { filename := value.string ["filename"]
        start := positionOfJson (value.field "begin")
        stop := positionOfJson (value.field "end") }
  else none

def Deprecation.ofJson (value : Json String) : Deprecation where
  since := value.string? ["since"]
  note := value.string? ["note"]

def Item.linksOfJson (value : Json String) : Table ItemId :=
  Table.ofEntries (value.record.filterMap fun (name, target) => target.id?.map (name, ·))

def Item.ofFields (value : Json String) : Item where
  id := (value.field "id").id?
  name := value.string? ["name"]
  visibility := Visibility.ofJson (value.field "visibility")
  attributes := value.list "attrs"
  body := ItemBody.ofJson (value.field "inner")
  crateId := value.wholeNumber "crate_id"
  docs := value.string? ["docs"]
  span := Span.ofJson? (value.field "span")
  deprecation :=
    if (value.field "deprecation").isObject then
      some (Deprecation.ofJson (value.field "deprecation"))
    else none
  links := Item.linksOfJson (value.field "links")

def Item.ofJson (value : Json String) : Except ReadError Item :=
  if value.isObject then .ok (Item.ofFields value) else .error (.notAnItem value.kind)

def Item.placeholder (id : ItemId) : Item where
  id := some id
  name := none
  visibility := .everywhere
  attributes := []
  body := .unknown none
  crateId := 0
  docs := none
  span := none
  deprecation := none
  links := Table.empty

/-! ### Documents -/

def ItemKind.ofJson : Json String → ItemKind
  | .str tag => ItemKind.ofTag tag
  | _ => .unknown

def ItemSummary.ofJson (value : Json String) : ItemSummary where
  path := value.strings "path"
  kind := ((Entries.get? "kind" value.record).map ItemKind.ofJson).getD .module
  crateId := value.wholeNumber "crate_id"

def ExternalCrate.ofJson (value : Json String) : ExternalCrate where
  name := value.string ["name"]
  htmlRootUrl := value.string? ["html_root_url"]

def Crate.indexOfJson (value : Json String) : Table Item :=
  Table.ofEntries (value.record.map fun (id, item) =>
    (id, if item.isObject then Item.ofFields item else Item.placeholder id))

def Crate.pathsOfJson (value : Json String) : Table ItemSummary :=
  Table.ofEntries (value.record.map fun (id, summary) => (id, ItemSummary.ofJson summary))

def Crate.externalCratesOfJson (value : Json String) : Table ExternalCrate :=
  Table.ofEntries (value.record.filterMap fun (id, external) =>
    if external.isObject then some (id, ExternalCrate.ofJson external) else none)

def Crate.ofFields (root : ItemId) (value : Json String) : Crate where
  root := root
  version := (value.field "crate_version").text?
  index := Crate.indexOfJson (value.field "index")
  paths := Crate.pathsOfJson (value.field "paths")
  externalCrates := Crate.externalCratesOfJson (value.field "external_crates")
  formatVersion := value.wholeNumber "format_version"
  includesPrivate := value.flag ["includes_private"]

/-- Reads a crate, in which types may be nested to any depth: the limit that an interpreter sets to
its recursion is left out. -/
def Crate.ofJson (value : Json String) : Except ReadError Crate := do
  if !value.isObject then
    throw (.notADocument value.kind)
  match Entries.get? "root" value.record with
  | none => throw .missingRoot
  | some root =>
      let root ← root.id
      pure (Crate.ofFields root value)

end CrateGraph
