import Mathlib.Data.Option.Basic
import CrateGraph.Crate.ReadItems

/-!
Where the parts of a document are records, and how a document may grow.

A `Shape` says how the readers treat a value: as a record with certain fields, as a tagged union
with certain payloads, as a list or a table of values of one shape, or as a whole. A value extends
another if it has further fields at any of its records, under keys that the reader of that record
does not look up. Nothing else about it may differ.
-/

namespace CrateGraph

/-! ### Shapes -/

/-- The parts of type references, which occur inside one another. -/
inductive TypePart where
  | type
  | path
  | arguments
  | argument
  | constraint
  | bound
  | parameterKind
  | parameter
  | polyTrait
  | signature

inductive Shape where
  /-- Taken as a whole or not looked at. -/
  | whole
  | part (part : TypePart)
  | list (item : Shape)
  | pair (first second : Shape)
  /-- A record with the shapes of the fields that are looked up. -/
  | record (fields : List (String × Shape))
  /-- A tagged union with the shapes of its payloads; other payloads are wholes. -/
  | union (payloads : List (String × Shape))
  /-- An object of which all the keys count. -/
  | table (value : Shape)

namespace Shape

def wholes (names : List String) : List (String × Shape) :=
  names.map (·, .whole)

def takesWhole (fields : List (String × Shape)) (name : String) : Bool :=
  match Entries.get? name fields with
  | some .whole => true
  | _ => false

theorem get?_of_takesWhole {fields : List (String × Shape)} {name : String}
    (known : takesWhole fields name) : Entries.get? name fields = some .whole := by
  unfold takesWhole at known
  split at known
  · assumption
  · cases known

def header : Shape :=
  .record (wholes ["is_const", "const", "is_unsafe", "unsafe", "is_async", "async", "abi"])

def parameters : String × Shape :=
  ("generic_params", .list (.part .parameter))

def typePayloads : List (String × Shape) :=
  [("resolved_path", .part .path),
    ("tuple", .list (.part .type)),
    ("slice", .part .type),
    ("array", .record (("type", .part .type) :: wholes ["len"])),
    ("raw_pointer", .record (("type", .part .type) :: wholes ["is_mutable", "mutable"])),
    ("borrowed_ref",
      .record (("type", .part .type) :: wholes ["is_mutable", "mutable", "lifetime"])),
    ("function_pointer",
      .record [("sig", .part .signature), ("decl", .part .signature), parameters,
        ("header", header)]),
    ("qualified_path",
      .record (("self_type", .part .type) :: ("trait", .part .path) ::
        ("args", .part .arguments) :: wholes ["name"])),
    ("impl_trait", .list (.part .bound)),
    ("dyn_trait", .record (("traits", .list (.part .polyTrait)) :: wholes ["lifetime"]))]

end Shape

namespace TypePart

open Shape (wholes parameters typePayloads)

def shape : TypePart → Shape
  | .type => .union typePayloads
  | .path => .record (("args", .part .arguments) :: wholes ["path", "name", "id"])
  | .arguments =>
      .union
        [("angle_bracketed", .record [("args", .list (.part .argument)),
            ("constraints", .list (.part .constraint)), ("bindings", .list (.part .constraint))]),
          ("parenthesized", .record [("inputs", .list (.part .type)), ("output", .part .type)])]
  | .argument =>
      .union
        [("type", .part .type), ("const", .record (wholes ["value", "expr", "is_literal"]))]
  | .constraint =>
      -- A term is a type under the tag of one, or a type that stands alone.
      .record (("args", .part .arguments) ::
        ("binding", .union
          [("equality", .union (("type", .part .type) :: typePayloads)),
            ("constraint", .list (.part .bound))]) :: wholes ["name"])
  | .bound =>
      .union
        [("trait_bound", .record (("trait", .part .path) :: parameters :: wholes ["modifier"]))]
  | .parameterKind =>
      .union
        [("lifetime", .record (wholes ["outlives"])),
          ("type", .record (("bounds", .list (.part .bound)) :: ("default", .part .type) ::
            wholes ["is_synthetic", "synthetic"])),
          ("const", .record (("type", .part .type) :: wholes ["default"]))]
  | .parameter => .record (("kind", .part .parameterKind) :: wholes ["name"])
  | .polyTrait => .record [("trait", .part .path), parameters]
  | .signature =>
      .record (("inputs", .list (.pair .whole (.part .type))) :: ("output", .part .type) ::
        wholes ["is_c_variadic", "c_variadic"])

end TypePart

namespace Shape

def predicate : Shape :=
  .union
    [("bound_predicate",
        .record [("type", .part .type), ("bounds", .list (.part .bound)), parameters]),
      ("lifetime_predicate", .record (wholes ["lifetime", "outlives"])),
      ("eq_predicate", .record [("lhs", .part .type), ("rhs", .part .type)])]

def generics : Shape :=
  .record [("params", .list (.part .parameter)), ("where_predicates", .list predicate)]

def namedFields : Shape :=
  .record (wholes ["fields", "has_stripped_fields", "fields_stripped"])

def reexport : Shape :=
  .record (wholes ["source", "name", "id", "is_glob", "glob"])

def typeAlias : Shape :=
  .record [("generics", generics), ("type", .part .type)]

/-- What items declare, by their tags. -/
def bodyPayloads : List (String × Shape) :=
  [("struct_field", .part .type),
    ("module", .record (wholes ["items", "is_stripped", "is_crate"])),
    ("struct", .record (("kind", .union [("plain", namedFields)]) :: ("generics", generics) ::
      wholes ["impls"])),
    ("union", .record (("generics", generics) ::
      wholes ["fields", "has_stripped_fields", "fields_stripped", "impls"])),
    ("enum", .record (("generics", generics) ::
      wholes ["variants", "variants_stripped", "has_stripped_variants", "impls"])),
    ("variant", .record [("kind", .union [("struct", namedFields)]),
      ("discriminant", .record (wholes ["expr", "value"]))]),
    ("function", .record (("sig", .part .signature) :: ("decl", .part .signature) ::
      ("generics", generics) :: ("header", header) :: wholes ["has_body"])),
    ("trait", .record (("generics", generics) :: ("bounds", .list (.part .bound)) ::
      wholes ["items", "implementations", "is_auto", "is_unsafe", "is_dyn_compatible",
        "is_object_safe"])),
    ("impl", .record (("generics", generics) :: ("trait", .part .path) :: ("for", .part .type) ::
      ("blanket_impl", .part .type) ::
      wholes ["items", "is_unsafe", "is_negative", "negative", "is_synthetic", "synthetic"])),
    ("use", reexport),
    ("import", reexport),
    ("type_alias", typeAlias),
    ("typedef", typeAlias),
    ("constant", .record (("type", .part .type) ::
      ("const", .record (wholes ["expr", "value", "is_literal"])) ::
      wholes ["expr", "value", "is_literal"])),
    ("static", .record (("type", .part .type) ::
      wholes ["is_mutable", "mutable", "is_unsafe", "expr"])),
    ("assoc_const", .record (("type", .part .type) :: wholes ["value", "default"])),
    ("assoc_type", .record [("generics", generics), ("bounds", .list (.part .bound)),
      ("type", .part .type), ("default", .part .type)])]

def item : Shape :=
  .record (("visibility", .union [("restricted", .record (wholes ["parent", "path"]))]) ::
    ("inner", .union bodyPayloads) ::
    ("span", .record (wholes ["filename", "begin", "end"])) ::
    ("deprecation", .record (wholes ["since", "note"])) ::
    wholes ["id", "name", "attrs", "crate_id", "docs", "links"])

def summary : Shape :=
  .record (wholes ["path", "kind", "crate_id"])

def externalCrate : Shape :=
  .record (wholes ["name", "html_root_url"])

def document : Shape :=
  .record (("index", .table item) :: ("paths", .table summary) ::
    ("external_crates", .table externalCrate) ::
    wholes ["root", "crate_version", "format_version", "includes_private"])

end Shape

/-! ### Extensions -/

mutual

/-- The second value is the first with further fields at its records. -/
inductive Extends : Shape → Json String → Json String → Prop where
  | same (shape : Shape) (value : Json String) : Extends shape value value
  | part {part : TypePart} {value other : Json String} (inside : Extends part.shape value other) :
      Extends (.part part) value other
  | list {item : Shape} {items others : List (Json String)}
      (inside : ExtendsItems item items others) : Extends (.list item) (.arr items) (.arr others)
  | pair {first second : Shape} {left right otherLeft otherRight : Json String}
      (inFirst : Extends first left otherLeft) (inSecond : Extends second right otherRight) :
      Extends (.pair first second) (.arr [left, right]) (.arr [otherLeft, otherRight])
  | record {fields : List (String × Shape)} {entries others : Json.Record String}
      (inside : ExtendsFields fields entries others) :
      Extends (.record fields) (.obj entries) (.obj others)
  | union {payloads : List (String × Shape)} {tag : String} {shape : Shape}
      {payload other : Json String} (known : (tag, shape) ∈ payloads)
      (inside : Extends shape payload other) :
      Extends (.union payloads) (.obj [(tag, payload)]) (.obj [(tag, other)])
  | table {shape : Shape} {entries others : Json.Record String}
      (inside : ExtendsEntries shape entries others) :
      Extends (.table shape) (.obj entries) (.obj others)

inductive ExtendsItems : Shape → List (Json String) → List (Json String) → Prop where
  | nil (shape : Shape) : ExtendsItems shape [] []
  | cons {shape : Shape} {item other : Json String} {items others : List (Json String)}
      (first : Extends shape item other) (rest : ExtendsItems shape items others) :
      ExtendsItems shape (item :: items) (other :: others)

/-- Fields that are looked up grow by their shapes, others stay, and new ones come in anywhere. -/
inductive ExtendsFields :
    List (String × Shape) → Json.Record String → Json.Record String → Prop where
  | nil (fields : List (String × Shape)) : ExtendsFields fields [] []
  | keep {fields : List (String × Shape)} {key : String} {value other : Json String}
      {entries others : Json.Record String}
      (inside : Extends ((Entries.get? key fields).getD .whole) value other)
      (rest : ExtendsFields fields entries others) :
      ExtendsFields fields ((key, value) :: entries) ((key, other) :: others)
  | insert {fields : List (String × Shape)} {key : String} (value : Json String)
      {entries others : Json.Record String} (unread : key ∉ fields.map Prod.fst)
      (rest : ExtendsFields fields entries others) :
      ExtendsFields fields entries ((key, value) :: others)

inductive ExtendsEntries : Shape → Json.Record String → Json.Record String → Prop where
  | nil (shape : Shape) : ExtendsEntries shape [] []
  | cons {shape : Shape} (key : String) {value other : Json String}
      {entries others : Json.Record String} (first : Extends shape value other)
      (rest : ExtendsEntries shape entries others) :
      ExtendsEntries shape ((key, value) :: entries) ((key, other) :: others)

end

/-! ### Parts of an extended value -/

theorem Extends.of_part {part : TypePart} {value other : Json String}
    (extension : Extends (.part part) value other) : Extends part.shape value other := by
  cases extension with
  | same => exact .same _ _
  | part inside => exact inside

theorem Extends.eq_of_whole {value other : Json String} (extension : Extends .whole value other) :
    other = value := by
  cases extension
  rfl

theorem Extends.kind_eq {shape : Shape} {value other : Json String}
    (extension : Extends shape value other) : other.kind = value.kind := by
  cases extension with
  | part inside =>
      rename_i part
      cases part <;> cases inside <;> rfl
  | _ => rfl

theorem Extends.isObject_eq {shape : Shape} {value other : Json String}
    (extension : Extends shape value other) : other.isObject = value.isObject := by
  have kinds := extension.kind_eq
  cases value <;> cases other <;> first | rfl | cases kinds

theorem Extends.eq_null_iff {shape : Shape} {value other : Json String}
    (extension : Extends shape value other) : other = .null ↔ value = .null := by
  have kinds := extension.kind_eq
  cases value <;> cases other <;> simp_all [Json.kind]

theorem ExtendsItems.refl (shape : Shape) (items : List (Json String)) :
    ExtendsItems shape items items := by
  induction items with
  | nil => exact .nil shape
  | cons item rest induction => exact .cons (.same shape item) induction

theorem Extends.items {shape : Shape} {value other : Json String}
    (extension : Extends (.list shape) value other) :
    ExtendsItems shape value.items other.items := by
  cases extension with
  | same => exact .refl shape _
  | list inside => exact inside

theorem ExtendsItems.isEmpty_eq {shape : Shape} {items others : List (Json String)}
    (extension : ExtendsItems shape items others) : others.isEmpty = items.isEmpty := by
  cases extension <;> rfl

/-- What is read from the items one by one does not change if it does not for any of them. -/
theorem ExtendsItems.map_eq {Read : Type} {shape : Shape} {items others : List (Json String)}
    (extension : ExtendsItems shape items others) {read : Json String → Read}
    (each : ∀ item other, item ∈ items → Extends shape item other → read other = read item) :
    others.map read = items.map read := by
  induction items generalizing others with
  | nil =>
      cases extension
      rfl
  | cons item rest induction =>
      cases extension with
      | cons first remaining =>
          rw [List.map_cons, List.map_cons, each item _ List.mem_cons_self first,
            induction remaining fun item other member => each item other (.tail _ member)]

theorem ExtendsItems.filterMap_eq {Read : Type} {shape : Shape} {items others : List (Json String)}
    (extension : ExtendsItems shape items others) {read : Json String → Option Read}
    (each : ∀ item other, item ∈ items → Extends shape item other → read other = read item) :
    others.filterMap read = items.filterMap read := by
  have inTwoSteps : ∀ items : List (Json String),
      items.filterMap read = (items.map read).filterMap id := by
    intro items
    rw [List.filterMap_map]
    rfl
  rw [inTwoSteps, extension.map_eq each, ← inTwoSteps]

/-! ### Fields of an extended record -/

theorem Entries.mem_keys_of_get? {Value : Type} {key : String} {entries : Entries String Value}
    {value : Value} (found : Entries.get? key entries = some value) :
    key ∈ entries.map Prod.fst :=
  List.mem_map.mpr ⟨(key, value), Entries.mem_of_get? found, rfl⟩

theorem ExtendsFields.get? {fields : List (String × Shape)} {key : String} {shape : Shape}
    (known : Entries.get? key fields = some shape) {entries others : Json.Record String}
    (extension : ExtendsFields fields entries others) :
    Option.Rel (Extends shape) (Entries.get? key entries) (Entries.get? key others) := by
  induction others generalizing entries with
  | nil =>
      cases extension
      exact .none
  | cons entry rest induction =>
      cases extension with
      | @keep _ name _ _ _ _ inside remaining =>
          simp only [Entries.get?]
          split
          · next same =>
              rw [same, known] at inside
              exact .some inside
          · exact induction remaining
      | @insert _ name value _ _ unread remaining =>
          have different : name ≠ key := fun same =>
            unread (same ▸ Entries.mem_keys_of_get? known)
          rw [Entries.get?, if_neg different]
          exact induction remaining

theorem findSome?_eq_of_forall_mem {Found : Type} {names : List String}
    {left right : String → Option Found} (same : ∀ name ∈ names, left name = right name) :
    names.findSome? left = names.findSome? right := by
  induction names with
  | nil => rfl
  | cons name rest induction =>
      rw [List.findSome?_cons, List.findSome?_cons, same name List.mem_cons_self,
        induction fun name member => same name (.tail _ member)]

theorem eq_of_rel_whole {given others : Option (Json String)}
    (related : Option.Rel (Extends .whole) given others) : others = given := by
  cases related with
  | none => rfl
  | some inside => rw [inside.eq_of_whole]

theorem extends_getD_of_rel {shape : Shape} {given others : Option (Json String)}
    (related : Option.Rel (Extends shape) given others) {default otherwise : Json String}
    (missing : Extends shape default otherwise) :
    Extends shape (given.getD default) (others.getD otherwise) := by
  cases related with
  | none => exact missing
  | some inside => exact inside

/-- What is read from a value that may be missing does not change if it does not for a value that is
there. -/
theorem map_eq_of_rel {Read : Type} {shape : Shape} {given others : Option (Json String)}
    (related : Option.Rel (Extends shape) given others) {read : Json String → Read}
    (each : ∀ value other, given = some value → Extends shape value other →
      read other = read value) : others.map read = given.map read := by
  cases related with
  | none => rfl
  | some inside => exact congrArg some (each _ _ rfl inside)

section Fields

variable {fields : List (String × Shape)} {value other : Json String}
  (extension : Extends (.record fields) value other)
include extension

theorem Extends.get? {key : String} {shape : Shape} (known : Entries.get? key fields = some shape) :
    Option.Rel (Extends shape) (Entries.get? key value.record) (Entries.get? key other.record) := by
  cases extension with
  | same =>
      cases Entries.get? key value.record with
      | none => exact .none
      | some inner => exact .some (.same shape inner)
  | record inside => exact inside.get? known

theorem Extends.get?_eq {key : String} (known : Entries.get? key fields = some .whole) :
    Entries.get? key other.record = Entries.get? key value.record :=
  eq_of_rel_whole (extension.get? known)

theorem Extends.field (key : String) {shape : Shape}
    (known : Entries.get? key fields = some shape) :
    Extends shape (value.field key) (other.field key) :=
  extends_getD_of_rel (extension.get? known) (.same shape .null)

theorem Extends.field_eq (key : String) (known : Entries.get? key fields = some .whole) :
    other.field key = value.field key :=
  (extension.field key known).eq_of_whole

theorem Extends.itemsOf {key : String} {shape : Shape}
    (known : Entries.get? key fields = some (.list shape)) :
    ExtendsItems shape (value.list key) (other.list key) :=
  (extension.field key known).items

theorem Extends.either {first second : String} {shape : Shape}
    (knownFirst : Entries.get? first fields = some shape)
    (knownSecond : Entries.get? second fields = some shape) :
    Extends shape (value.either first second) (other.either first second) :=
  extends_getD_of_rel (extension.get? knownFirst) (extension.field second knownSecond)

theorem Extends.given? {key : String} {shape : Shape}
    (known : Entries.get? key fields = some shape) :
    Option.Rel (Extends shape) (value.given? key) (other.given? key) := by
  have inField := extension.field key known
  unfold Json.given?
  split
  · next isNull =>
      rw [inField.eq_null_iff.mpr isNull]
      exact .none
  · next present =>
      split
      · next isNull => exact absurd (inField.eq_null_iff.mp isNull) present
      · exact .some inField

theorem Extends.flag_eq {names : List String} (known : names.all (Shape.takesWhole fields)) :
    other.flag names = value.flag names := by
  unfold Json.flag
  congr 2
  exact findSome?_eq_of_forall_mem fun name member =>
    extension.get?_eq (Shape.get?_of_takesWhole (List.all_eq_true.mp known name member))

theorem Extends.string?_eq {names : List String} (known : names.all (Shape.takesWhole fields)) :
    other.string? names = value.string? names := by
  refine findSome?_eq_of_forall_mem fun name member => ?_
  rw [extension.field_eq name (Shape.get?_of_takesWhole (List.all_eq_true.mp known name member))]

theorem Extends.string_eq {names : List String} (known : names.all (Shape.takesWhole fields)) :
    other.string names = value.string names := by
  rw [Json.string, extension.string?_eq known, Json.string]

theorem Extends.strings_eq {key : String} (known : Entries.get? key fields = some .whole) :
    other.strings key = value.strings key := by
  rw [Json.strings, Json.list, extension.field_eq key known, Json.strings, Json.list]

theorem Extends.wholeNumber_eq {key : String} (known : Entries.get? key fields = some .whole) :
    other.wholeNumber key = value.wholeNumber key := by
  rw [Json.wholeNumber, extension.field_eq key known, Json.wholeNumber]

end Fields

end CrateGraph
