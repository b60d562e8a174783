import CrateGraph.Crate.Items
import CrateGraph.Crate.Fields

/-!
Writing of a crate as a document.

Unions are written as a tag with a payload, absent parts as null, and what has no known tag as the
tag that it came with. Documents have changed over time: fields were renamed, ids became numbers and
some parts moved. At every place of a document where earlier formats differ, a `Spelling` says which
form the place has, and it is free to say something else at the next place.
-/

namespace CrateGraph

/-! ### Spellings -/

/-- A step on the way from a document to one of its places. -/
inductive PlaceStep where
  | key (name : String)
  | position (index : Nat)

/-- The places that are written as in earlier formats. A place is given by the steps that lead to
it, with the current names of the fields on the way. -/
def Spelling := List PlaceStep → Bool

namespace Spelling

/-- No place has an earlier form. -/
def current : Spelling := fun _ => false

def under (spelling : Spelling) (key : String) : Spelling :=
  fun place => spelling (.key key :: place)

def item (spelling : Spelling) (index : Nat) : Spelling :=
  fun place => spelling (.position index :: place)

def isEarlier (spelling : Spelling) (key : String) : Bool :=
  spelling [.key key]

def name (spelling : Spelling) (key earlier : String) : String :=
  if spelling.isEarlier key then earlier else key

def each {Part : Type} (spelling : Spelling) (parts : List Part)
    (write : (part : Part) → part ∈ parts → Spelling → Json String) : Json String :=
  .arr (List.ofFn fun index : Fin parts.length =>
    write (parts.get index) (List.get_mem parts index) (spelling.item index))

end Spelling

namespace Json

def tagged (tag : String) (payload : Json String) : Json String :=
  .obj [(tag, payload)]

/-- A value without a known tag: the tag alone, or an object in which there is none. -/
def untagged : Option String → Json String
  | none => .obj []
  | some tag => .str tag

def optional {Part : Type} (given : Option Part)
    (write : (part : Part) → given = some part → Json String) : Json String :=
  match given with
  | none => .null
  | some part => write part rfl

def optionalText (text : Option String) : Json String :=
  optional text fun text _ => .str text

end Json

/-- The value of the digits of an id, with its sign. -/
def ItemId.value (id : ItemId) : Int :=
  match id.toList with
  | '-' :: digits => -Nat.ofDigitChars 10 digits 0
  | digits => Nat.ofDigitChars 10 digits 0

/-- The whole number that an id is the decimal form of. -/
def ItemId.number? (id : ItemId) : Option Int :=
  if toString (ItemId.value id) = id then some (ItemId.value id) else none

theorem ItemId.value_toString (number : Int) : ItemId.value (toString number) = number := by
  change ItemId.value number.repr = number
  rw [ItemId.value, Int.repr_eq_if]
  by_cases positive : 0 ≤ number
  · rw [if_pos positive, Nat.toList_repr]
    split
    · next digits signed =>
        have isDigit : '-'.isDigit :=
          Nat.isDigit_of_mem_toDigits (by decide) (by decide) (signed ▸ List.mem_cons_self)
        exact absurd isDigit (by decide)
    · rw [Nat.ofDigitChars_ten_toDigits]
      omega
  · rw [if_neg positive, String.toList_append, Nat.toList_repr]
    change -(Nat.ofDigitChars 10 (Nat.toDigits 10 (-number).toNat) 0 : Int) = number
    rw [Nat.ofDigitChars_ten_toDigits]
    omega

/-- The ids that are numbers are exactly the decimal forms. -/
theorem ItemId.number?_eq_some_iff {id : ItemId} {number : Int} :
    ItemId.number? id = some number ↔ id = toString number := by
  unfold ItemId.number?
  constructor
  · intro found
    split at found
    · next same =>
        cases found
        exact same.symm
    · cases found
  · rintro rfl
    rw [ItemId.value_toString, if_pos rfl]

/-- Ids that are numbers were written as texts in earlier formats. -/
def ItemId.write (spelling : Spelling) (id : ItemId) : Json String :=
  match spelling [], ItemId.number? id with
  | false, some number => .int number
  | _, _ => .str id

def ItemId.writeOptional (spelling : Spelling) (id : Option ItemId) : Json String :=
  .optional id fun id _ => ItemId.write spelling id

def ItemId.writeAll (spelling : Spelling) (ids : List ItemId) : Json String :=
  spelling.each ids fun id _ spelling => ItemId.write spelling id

/-! ### Type references -/

def FunctionHeader.write (spelling : Spelling) (header : FunctionHeader) : Json String :=
  .obj
    [("abi", header.abi),
      (spelling.name "is_const" "const", .bool header.isConst),
      (spelling.name "is_unsafe" "unsafe", .bool header.isUnsafe),
      (spelling.name "is_async" "async", .bool header.isAsync)]

/-- Can the type be told from a term that carries the tag of a type or of a constant? -/
def RustType.standsAlone : RustType → Bool
  | .unknown (some tag) => tag != "type" && tag != "constant"
  | _ => true

mutual

def RustType.write (spelling : Spelling) : RustType → Json String
  | .path reference =>
      .tagged "resolved_path" (reference.write (spelling.under "resolved_path"))
  | .primitive name => .tagged "primitive" (.str name)
  | .tuple elements =>
      .tagged "tuple" ((spelling.under "tuple").each elements fun element _ spelling =>
        element.write spelling)
  | .slice element => .tagged "slice" (element.write (spelling.under "slice"))
  | .array element length =>
      .tagged "array" (.obj
        [("type", element.write ((spelling.under "array").under "type")), ("len", .str length)])
  | .rawPointer target isMutable =>
      .tagged "raw_pointer" (.obj
        [("type", target.write ((spelling.under "raw_pointer").under "type")),
          ((spelling.under "raw_pointer").name "is_mutable" "mutable", .bool isMutable)])
  | .borrowed target isMutable lifetime =>
      .tagged "borrowed_ref" (.obj
        [("type", target.write ((spelling.under "borrowed_ref").under "type")),
          ("lifetime", .optionalText lifetime),
          ((spelling.under "borrowed_ref").name "is_mutable" "mutable", .bool isMutable)])
  | .functionPointer signature parameters header =>
      .tagged "function_pointer" (.obj
        [("generic_params",
            ((spelling.under "function_pointer").under "generic_params").each parameters
              fun parameter _ spelling => parameter.write spelling),
          ("header", header.write ((spelling.under "function_pointer").under "header")),
          ((spelling.under "function_pointer").name "sig" "decl",
            signature.write ((spelling.under "function_pointer").under "sig"))])
  | .qualified name selfType trait arguments =>
      .tagged "qualified_path" (.obj
        [("name", .str name),
          ("self_type", selfType.write ((spelling.under "qualified_path").under "self_type")),
          ("trait", .optional trait fun reference _ =>
            reference.write ((spelling.under "qualified_path").under "trait")),
          ("args", .optional arguments fun given _ =>
            given.write ((spelling.under "qualified_path").under "args"))])
  | .implTrait bounds =>
      .tagged "impl_trait" ((spelling.under "impl_trait").each bounds fun bound _ spelling =>
        bound.write spelling)
  | .dynTrait traits lifetime =>
      .tagged "dyn_trait" (.obj
        [("traits", ((spelling.under "dyn_trait").under "traits").each traits
            fun trait _ spelling => trait.write spelling),
          ("lifetime", .optionalText lifetime)])
  | .infer => .str "infer"
  | .generic name => .tagged "generic" (.str name)
  | .unknown tag => .untagged tag
termination_by type => sizeOf type

def PathReference.write (spelling : Spelling) : PathReference → Json String
  | ⟨path, id, arguments⟩ =>
      .obj
        [("id", ItemId.writeOptional (spelling.under "id") id),
          ("args", .optional arguments fun given _ => given.write (spelling.under "args")),
          (spelling.name "path" "name", .str path)]
termination_by reference => sizeOf reference

def GenericArguments.write (spelling : Spelling) : GenericArguments → Json String
  | .angleBracketed arguments constraints =>
      .tagged "angle_bracketed" (.obj
        [("args", ((spelling.under "angle_bracketed").under "args").each arguments
            fun argument _ spelling => argument.write spelling),
          ((spelling.under "angle_bracketed").name "constraints" "bindings",
            ((spelling.under "angle_bracketed").under "constraints").each constraints
              fun constraint _ spelling => constraint.write spelling)])
  | .parenthesized inputs output =>
      .tagged "parenthesized" (.obj
        [("inputs", ((spelling.under "parenthesized").under "inputs").each inputs
            fun input _ spelling => input.write spelling),
          ("output", .optional output fun type _ =>
            type.write ((spelling.under "parenthesized").under "output"))])
  | .unknown tag => .untagged tag
termination_by arguments => sizeOf arguments

def GenericArgument.write (spelling : Spelling) : GenericArgument → Json String
  | .lifetime name => .tagged "lifetime" (.str name)
  | .type type => .tagged "type" (type.write (spelling.under "type"))
  | .const value expression isLiteral =>
      .tagged "const" (.obj
        [("value", .optionalText value), ("expr", .optionalText expression),
          ("is_literal", .bool isLiteral)])
  | .infer => .str "infer"
  | .unknown tag => .untagged tag
termination_by argument => sizeOf argument

/-- The type that an item is set equal to stood alone in earlier formats. -/
def AssociatedConstraint.write (spelling : Spelling) : AssociatedConstraint → Json String
  | ⟨name, arguments, equality, bounds⟩ =>
      .obj
        [("name", .str name),
          ("args", .optional arguments fun given _ => given.write (spelling.under "args")),
          ("binding",
            match equality with
            | none =>
                .tagged "constraint"
                  (((spelling.under "binding").under "constraint").each bounds
                    fun bound _ spelling => bound.write spelling)
            | some type =>
                .tagged "equality"
                  (if (spelling.under "binding").isEarlier "equality" && type.standsAlone then
                    type.write ((spelling.under "binding").under "equality")
                  else
                    .tagged "type" (type.write ((spelling.under "binding").under "equality"))))]
termination_by constraint => sizeOf constraint

def GenericBound.write (spelling : Spelling) : GenericBound → Json String
  | .trait trait modifier parameters =>
      .tagged "trait_bound" (.obj
        [("trait", trait.write ((spelling.under "trait_bound").under "trait")),
          ("modifier", .str modifier),
          ("generic_params", ((spelling.under "trait_bound").under "generic_params").each parameters
            fun parameter _ spelling => parameter.write spelling)])
  | .outlives lifetime => .tagged "outlives" (.str lifetime)
  | .capture parameters => .tagged "use" (.arr parameters)
  | .unknown tag => .untagged tag
termination_by bound => sizeOf bound

def GenericParameterKind.write (spelling : Spelling) : GenericParameterKind → Json String
  | .lifetime outlives => .tagged "lifetime" (.obj [("outlives", .arr (outlives.map .str))])
  | .type bounds default isSynthetic =>
      .tagged "type" (.obj
        [("bounds", ((spelling.under "type").under "bounds").each bounds
            fun bound _ spelling => bound.write spelling),
          ("default", .optional default fun type _ =>
            type.write ((spelling.under "type").under "default")),
          ((spelling.under "type").name "is_synthetic" "synthetic", .bool isSynthetic)])
  | .const type default =>
      .tagged "const" (.obj
        [("type", type.write ((spelling.under "const").under "type")),
          ("default", .optionalText default)])
  | .unknown tag => .untagged tag
termination_by kind => sizeOf kind
decreasing_by all_goals grind [→ List.sizeOf_lt_of_mem]

def GenericParameter.write (spelling : Spelling) : GenericParameter → Json String
  | ⟨name, kind⟩ => .obj [("name", .str name), ("kind", kind.write (spelling.under "kind"))]
termination_by parameter => sizeOf parameter

def PolyTrait.write (spelling : Spelling) : PolyTrait → Json String
  | ⟨trait, parameters⟩ =>
      .obj
        [("trait", trait.write (spelling.under "trait")),
          ("generic_params", (spelling.under "generic_params").each parameters
            fun parameter _ spelling => parameter.write spelling)]
termination_by trait => sizeOf trait

def FunctionInput.write (spelling : Spelling) : FunctionInput → Json String
  | ⟨name, type⟩ => .arr [.str name, type.write (spelling.item 1)]
termination_by input => sizeOf input

def FunctionSignature.write (spelling : Spelling) : FunctionSignature → Json String
  | ⟨inputs, output, isVariadic⟩ =>
      .obj
        [("inputs", (spelling.under "inputs").each inputs fun input _ spelling =>
            input.write spelling),
          ("output", .optional output fun type _ => type.write (spelling.under "output")),
          (spelling.name "is_c_variadic" "c_variadic", .bool isVariadic)]
termination_by signature => sizeOf signature
decreasing_by all_goals grind [→ List.sizeOf_lt_of_mem]

end

def WherePredicate.write (spelling : Spelling) : WherePredicate → Json String
  | .bound type bounds parameters =>
      .tagged "bound_predicate" (.obj
        [("type", type.write ((spelling.under "bound_predicate").under "type")),
          ("bounds", ((spelling.under "bound_predicate").under "bounds").each bounds
            fun bound _ spelling => bound.write spelling),
          ("generic_params",
            ((spelling.under "bound_predicate").under "generic_params").each parameters
              fun parameter _ spelling => parameter.write spelling)])
  | .lifetime name outlives =>
      .tagged "lifetime_predicate" (.obj
        [("lifetime", .str name), ("outlives", .arr (outlives.map .str))])
  | .equality left right =>
      .tagged "eq_predicate" (.obj
        [("lhs", left.write ((spelling.under "eq_predicate").under "lhs")),
          ("rhs", right.write ((spelling.under "eq_predicate").under "rhs"))])
  | .unknown tag => .untagged tag

def Generics.write (spelling : Spelling) (generics : Generics) : Json String :=
  .obj
    [("params", (spelling.under "params").each generics.parameters
        fun parameter _ spelling => parameter.write spelling),
      ("where_predicates", (spelling.under "where_predicates").each generics.wherePredicates
        fun predicate _ spelling => predicate.write spelling)]

/-! ### What an item declares -/

def ModuleBody.write (spelling : Spelling) (body : ModuleBody) : Json String :=
  .obj
    [("items", ItemId.writeAll (spelling.under "items") body.items),
      ("is_stripped", .bool body.isStripped), ("is_crate", .bool body.isCrate)]

/-- The ids of the fields of a tuple, with null for a field that is left out. -/
def ItemId.writeGaps (spelling : Spelling) (fields : List (Option ItemId)) : Json String :=
  spelling.each fields fun id _ spelling => ItemId.writeOptional spelling id

/-- Named fields, and whether some are left out. -/
def ItemId.writeNamed (spelling : Spelling) (fields : List ItemId) (hasStripped : Bool) :
    Json String :=
  .obj
    [("fields", ItemId.writeAll (spelling.under "fields") fields),
      (spelling.name "has_stripped_fields" "fields_stripped", .bool hasStripped)]

def StructFields.write (spelling : Spelling) : StructFields → Json String
  | .unit => .str "unit"
  | .tuple fields => .tagged "tuple" (ItemId.writeGaps (spelling.under "tuple") fields)
  | .plain fields hasStripped =>
      .tagged "plain" (ItemId.writeNamed (spelling.under "plain") fields hasStripped)

def VariantFields.write (spelling : Spelling) : VariantFields → Json String
  | .plain => .str "plain"
  | .tuple fields => .tagged "tuple" (ItemId.writeGaps (spelling.under "tuple") fields)
  | .struct fields hasStripped =>
      .tagged "struct" (ItemId.writeNamed (spelling.under "struct") fields hasStripped)

def StructBody.write (spelling : Spelling) (body : StructBody) : Json String :=
  .obj
    [("kind", body.fields.write (spelling.under "kind")),
      ("generics", body.generics.write (spelling.under "generics")),
      ("impls", ItemId.writeAll (spelling.under "impls") body.implementations)]

def UnionBody.write (spelling : Spelling) (body : UnionBody) : Json String :=
  .obj
    [("generics", body.generics.write (spelling.under "generics")),
      ("fields", ItemId.writeAll (spelling.under "fields") body.fields),
      ("impls", ItemId.writeAll (spelling.under "impls") body.implementations),
      (spelling.name "has_stripped_fields" "fields_stripped", .bool body.hasStripped)]

def EnumBody.write (spelling : Spelling) (body : EnumBody) : Json String :=
  .obj
    [("generics", body.generics.write (spelling.under "generics")),
      ("variants", ItemId.writeAll (spelling.under "variants") body.variants),
      ("impls", ItemId.writeAll (spelling.under "impls") body.implementations),
      (spelling.name "variants_stripped" "has_stripped_variants", .bool body.hasStripped)]

def Discriminant.write (discriminant : Discriminant) : Json String :=
  .obj
    [("expr", .optionalText discriminant.expression), ("value", .optionalText discriminant.value)]

def VariantBody.write (spelling : Spelling) (body : VariantBody) : Json String :=
  .obj
    [("kind", body.fields.write (spelling.under "kind")),
      ("discriminant", .optional body.discriminant fun discriminant _ => discriminant.write)]

def FunctionBody.write (spelling : Spelling) (body : FunctionBody) : Json String :=
  .obj
    [("generics", body.generics.write (spelling.under "generics")),
      ("header", body.header.write (spelling.under "header")),
      ("has_body", .bool body.hasBody),
      (spelling.name "sig" "decl", body.signature.write (spelling.under "sig"))]

def TraitBody.write (spelling : Spelling) (body : TraitBody) : Json String :=
  .obj
    [("generics", body.generics.write (spelling.under "generics")),
      ("bounds", (spelling.under "bounds").each body.bounds
        fun bound _ spelling => bound.write spelling),
      ("items", ItemId.writeAll (spelling.under "items") body.items),
      ("implementations", ItemId.writeAll (spelling.under "implementations") body.implementations),
      ("is_auto", .bool body.isAuto), ("is_unsafe", .bool body.isUnsafe),
      (spelling.name "is_dyn_compatible" "is_object_safe", .bool body.isDynCompatible)]

def ImplementationBody.write (spelling : Spelling) (body : ImplementationBody) : Json String :=
  .obj
    [("generics", body.generics.write (spelling.under "generics")),
      ("trait", .optional body.trait fun reference _ => reference.write (spelling.under "trait")),
      ("for", body.target.write (spelling.under "for")),
      ("items", ItemId.writeAll (spelling.under "items") body.items),
      ("is_unsafe", .bool body.isUnsafe),
      ("blanket_impl", .optional body.blanket fun type _ =>
        type.write (spelling.under "blanket_impl")),
      (spelling.name "is_negative" "negative", .bool body.isNegative),
      (spelling.name "is_synthetic" "synthetic", .bool body.isSynthetic)]

def UseBody.write (spelling : Spelling) (body : UseBody) : Json String :=
  .obj
    [("source", .str body.source), ("name", .optionalText body.name),
      ("id", ItemId.writeOptional (spelling.under "id") body.id),
      (spelling.name "is_glob" "glob", .bool body.isGlob)]

def TypeAliasBody.write (spelling : Spelling) (body : TypeAliasBody) : Json String :=
  .obj
    [("generics", body.generics.write (spelling.under "generics")),
      ("type", .optional body.type fun type _ => type.write (spelling.under "type"))]

def ConstantExpression.entries (constant : ConstantExpression) : Json.Record String :=
  [("expr", .optionalText constant.expression), ("value", .optionalText constant.value),
    ("is_literal", .bool constant.isLiteral)]

/-- The expression of a constant stood among the other fields of the constant in earlier formats. -/
def ConstantBody.write (spelling : Spelling) (body : ConstantBody) : Json String :=
  .obj (("type", body.type.write (spelling.under "type")) ::
    match body.expression with
    | none => [("const", .null)]
    | some constant =>
        if spelling.isEarlier "const" then constant.entries else [("const", .obj constant.entries)])

def StaticBody.write (spelling : Spelling) (body : StaticBody) : Json String :=
  .obj
    [("type", body.type.write (spelling.under "type")),
      ("is_unsafe", .bool body.isUnsafe), ("expr", .optionalText body.expression),
      (spelling.name "is_mutable" "mutable", .bool body.isMutable)]

def AssociatedConstantBody.write (spelling : Spelling) (body : AssociatedConstantBody) :
    Json String :=
  .obj
    [("type", body.type.write (spelling.under "type")),
      (spelling.name "value" "default", .optionalText body.value)]

def AssociatedTypeBody.write (spelling : Spelling) (body : AssociatedTypeBody) : Json String :=
  .obj
    [("generics", body.generics.write (spelling.under "generics")),
      ("bounds", (spelling.under "bounds").each body.bounds
        fun bound _ spelling => bound.write spelling),
      (spelling.name "type" "default", .optional body.type fun type _ =>
        type.write (spelling.under "type"))]

def ItemBody.write (spelling : Spelling) : ItemBody → Json String
  | .module body => .tagged "module" (body.write (spelling.under "module"))
  | .struct body => .tagged "struct" (body.write (spelling.under "struct"))
  | .union body => .tagged "union" (body.write (spelling.under "union"))
  | .enum body => .tagged "enum" (body.write (spelling.under "enum"))
  | .variant body => .tagged "variant" (body.write (spelling.under "variant"))
  | .function body => .tagged "function" (body.write (spelling.under "function"))
  | .trait body => .tagged "trait" (body.write (spelling.under "trait"))
  | .implementation body => .tagged "impl" (body.write (spelling.under "impl"))
  | .reexport body => .tagged (spelling.name "use" "import") (body.write (spelling.under "use"))
  | .typeAlias body =>
      .tagged (spelling.name "type_alias" "typedef") (body.write (spelling.under "type_alias"))
  | .constant body => .tagged "constant" (body.write (spelling.under "constant"))
  | .static body => .tagged "static" (body.write (spelling.under "static"))
  | .field type => .tagged "struct_field" (type.write (spelling.under "struct_field"))
  | .macroSource source => .tagged "macro" (.str source)
  | .associatedConstant body =>
      .tagged "assoc_const" (body.write (spelling.under "assoc_const"))
  | .associatedType body => .tagged "assoc_type" (body.write (spelling.under "assoc_type"))
  | .unknown tag => .untagged tag

/-! ### Items -/

def Visibility.write (spelling : Spelling) : Visibility → Json String
  | .everywhere => .str "public"
  | .inherited => .str "default"
  | .crateWide => .str "crate"
  | .restricted parent path =>
      .tagged "restricted" (.obj
        [("parent", ItemId.writeOptional ((spelling.under "restricted").under "parent") parent),
          ("path", .optionalText path)])

def Coordinate.write : Coordinate → Json String
  | .number value => .int value
  | .truth value => .bool value

def Span.write (span : Span) : Json String :=
  .obj
    [("filename", .str span.filename),
      ("begin", .arr [span.start.1.write, span.start.2.write]),
      ("end", .arr [span.stop.1.write, span.stop.2.write])]

def Deprecation.write (deprecation : Deprecation) : Json String :=
  .obj
    [("since", .optionalText deprecation.since), ("note", .optionalText deprecation.note)]

def Table.write {Value : Type} (spelling : Spelling) (write : Spelling → Value → Json String)
    (table : Table Value) : Json String :=
  .obj (table.entries.map fun (key, value) => (key, write (spelling.under key) value))

def Item.write (spelling : Spelling) (item : Item) : Json String :=
  .obj
    [("id", ItemId.writeOptional (spelling.under "id") item.id),
      ("name", .optionalText item.name),
      ("visibility", item.visibility.write (spelling.under "visibility")),
      ("attrs", .arr item.attributes),
      ("inner", item.body.write (spelling.under "inner")),
      ("crate_id", .int item.crateId),
      ("docs", .optionalText item.docs),
      ("span", .optional item.span fun span _ => span.write),
      ("deprecation", .optional item.deprecation fun deprecation _ => deprecation.write),
      ("links", item.links.write (spelling.under "links") ItemId.write)]

/-! ### Documents -/

/-- Of the kinds of a summary, only that of a type alias had another tag in earlier formats. -/
def ItemKind.write (spelling : Spelling) (kind : ItemKind) : Json String :=
  .str (if spelling [] && kind == .typeAlias then "typedef" else kind.tag)

def ItemSummary.write (spelling : Spelling) (summary : ItemSummary) : Json String :=
  .obj
    [("path", .arr (summary.path.map .str)),
      ("kind", summary.kind.write (spelling.under "kind")),
      ("crate_id", .int summary.crateId)]

def ExternalCrate.write (external : ExternalCrate) : Json String :=
  .obj [("name", .str external.name), ("html_root_url", .optionalText external.htmlRootUrl)]

def Crate.write (spelling : Spelling) (crate : Crate) : Json String :=
  .obj
    [("root", ItemId.write (spelling.under "root") crate.root),
      ("crate_version", .optionalText crate.version),
      ("index", crate.index.write (spelling.under "index") Item.write),
      ("paths", crate.paths.write (spelling.under "paths") ItemSummary.write),
      ("external_crates",
        crate.externalCrates.write (spelling.under "external_crates") fun _ => ExternalCrate.write),
      ("format_version", .int crate.formatVersion),
      ("includes_private", .bool crate.includesPrivate)]

/-- The document of a crate in the current format. -/
def Crate.toJson (crate : Crate) : Json String :=
  crate.write .current

end CrateGraph
