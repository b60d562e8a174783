import CrateGraph.Crate.ReadItems
import CrateGraph.Proofs.Crate.ReadableTypes

/-!
Which items and crates a document can give.

An item declares what the reader has no tag for only under a tag that is really unknown; everything
else about an item is free. The texts of a crate, the keys of its tables included, are made of the
characters of its document and of ASCII.
-/

namespace CrateGraph

/-! ### Tables -/

theorem Table.mem_of_mem_ofEntries {Value : Type} {entries : Entries String Value}
    {entry : String × Value} (member : entry ∈ (Table.ofEntries entries).entries) :
    entry ∈ entries := by
  have along : ∀ (entries : Entries String Value) (table : Table Value),
      entry ∈ (entries.foldl (fun table added => table.insert added.1 added.2) table).entries →
        entry ∈ entries ∨ entry ∈ table.entries := by
    intro entries
    induction entries with
    | nil => exact fun _ member => Or.inr member
    | cons first rest induction =>
        intro table member
        rcases induction _ member with later | earlier
        · exact Or.inl (List.mem_cons_of_mem _ later)
        · rcases Entries.eq_or_mem_of_mem_insert earlier with rfl | before
          · exact Or.inl List.mem_cons_self
          · exact Or.inr before
  exact (along entries Table.empty member).resolve_right List.not_mem_nil

/-! ### What a document can give -/

section Readable

variable (allowed : Char → Prop)

def ModuleBody.Readable (body : ModuleBody) : Prop :=
  ∀ id ∈ body.items, Text.Within allowed id

def StructFields.Readable : StructFields → Prop
  | .unit => True
  | .tuple fields => ∀ id, some id ∈ fields → Text.Within allowed id
  | .plain fields _ => ∀ id ∈ fields, Text.Within allowed id

def VariantFields.Readable : VariantFields → Prop
  | .plain => True
  | .tuple fields => ∀ id, some id ∈ fields → Text.Within allowed id
  | .struct fields _ => ∀ id ∈ fields, Text.Within allowed id

structure StructBody.Readable (body : StructBody) : Prop where
  fields : body.fields.Readable allowed
  generics : body.generics.Readable allowed
  implementations : ∀ id ∈ body.implementations, Text.Within allowed id

structure UnionBody.Readable (body : UnionBody) : Prop where
  generics : body.generics.Readable allowed
  fields : ∀ id ∈ body.fields, Text.Within allowed id
  implementations : ∀ id ∈ body.implementations, Text.Within allowed id

structure EnumBody.Readable (body : EnumBody) : Prop where
  generics : body.generics.Readable allowed
  variants : ∀ id ∈ body.variants, Text.Within allowed id
  implementations : ∀ id ∈ body.implementations, Text.Within allowed id

structure Discriminant.Readable (discriminant : Discriminant) : Prop where
  expression : ∀ text ∈ discriminant.expression, Text.Within allowed text
  value : ∀ text ∈ discriminant.value, Text.Within allowed text

structure VariantBody.Readable (body : VariantBody) : Prop where
  fields : body.fields.Readable allowed
  discriminant : ∀ discriminant ∈ body.discriminant, discriminant.Readable allowed

structure FunctionBody.Readable (body : FunctionBody) : Prop where
  signature : body.signature.Readable allowed
  generics : body.generics.Readable allowed
  header : body.header.Readable allowed

structure TraitBody.Readable (body : TraitBody) : Prop where
  generics : body.generics.Readable allowed
  bounds : ∀ bound ∈ body.bounds, bound.Readable allowed
  items : ∀ id ∈ body.items, Text.Within allowed id
  implementations : ∀ id ∈ body.implementations, Text.Within allowed id

structure ImplementationBody.Readable (body : ImplementationBody) : Prop where
  generics : body.generics.Readable allowed
  trait : ∀ reference ∈ body.trait, reference.Readable allowed
  target : body.target.Readable allowed
  items : ∀ id ∈ body.items, Text.Within allowed id
  blanket : ∀ type ∈ body.blanket, type.Readable allowed

structure UseBody.Readable (body : UseBody) : Prop where
  source : Text.Within allowed body.source
  name : ∀ text ∈ body.name, Text.Within allowed text
  id : ∀ text ∈ body.id, Text.Within allowed text

structure TypeAliasBody.Readable (body : TypeAliasBody) : Prop where
  generics : body.generics.Readable allowed
  type : ∀ type ∈ body.type, type.Readable allowed

structure ConstantExpression.Readable (constant : ConstantExpression) : Prop where
  expression : ∀ text ∈ constant.expression, Text.Within allowed text
  value : ∀ text ∈ constant.value, Text.Within allowed text

structure ConstantBody.Readable (body : ConstantBody) : Prop where
  type : body.type.Readable allowed
  expression : ∀ constant ∈ body.expression, constant.Readable allowed

structure StaticBody.Readable (body : StaticBody) : Prop where
  type : body.type.Readable allowed
  expression : ∀ text ∈ body.expression, Text.Within allowed text

structure AssociatedConstantBody.Readable (body : AssociatedConstantBody) : Prop where
  type : body.type.Readable allowed
  value : ∀ text ∈ body.value, Text.Within allowed text

structure AssociatedTypeBody.Readable (body : AssociatedTypeBody) : Prop where
  generics : body.generics.Readable allowed
  bounds : ∀ bound ∈ body.bounds, bound.Readable allowed
  type : ∀ type ∈ body.type, type.Readable allowed

/-- The tags of items, those of earlier formats included. -/
def ItemBody.tags : List String :=
  ["struct_field", "macro", "module", "struct", "union", "enum", "variant", "function", "trait",
    "impl", "use", "import", "type_alias", "typedef", "constant", "static", "assoc_const",
    "assoc_type"]

def ItemBody.Readable : ItemBody → Prop
  | .module body => body.Readable allowed
  | .struct body => body.Readable allowed
  | .union body => body.Readable allowed
  | .enum body => body.Readable allowed
  | .variant body => body.Readable allowed
  | .function body => body.Readable allowed
  | .trait body => body.Readable allowed
  | .implementation body => body.Readable allowed
  | .reexport body => body.Readable allowed
  | .typeAlias body => body.Readable allowed
  | .constant body => body.Readable allowed
  | .static body => body.Readable allowed
  | .field type => type.Readable allowed
  | .macroSource source => Text.Within allowed source
  | .associatedConstant body => body.Readable allowed
  | .associatedType body => body.Readable allowed
  | .unknown tag => UnknownTag allowed ItemBody.tags tag

def Visibility.Readable : Visibility → Prop
  | .restricted parent path =>
      (∀ text ∈ parent, Text.Within allowed text) ∧ ∀ text ∈ path, Text.Within allowed text
  | _ => True

structure Deprecation.Readable (deprecation : Deprecation) : Prop where
  since : ∀ text ∈ deprecation.since, Text.Within allowed text
  note : ∀ text ∈ deprecation.note, Text.Within allowed text

structure Item.Readable (item : Item) : Prop where
  id : ∀ text ∈ item.id, Text.Within allowed text
  name : ∀ text ∈ item.name, Text.Within allowed text
  visibility : item.visibility.Readable allowed
  attributes : ∀ written ∈ item.attributes, written.Within allowed
  body : item.body.Readable allowed
  docs : ∀ text ∈ item.docs, Text.Within allowed text
  span : ∀ span ∈ item.span, Text.Within allowed span.filename
  deprecation : ∀ deprecation ∈ item.deprecation, deprecation.Readable allowed
  links : ∀ link ∈ item.links.entries, Text.Within allowed link.1 ∧ Text.Within allowed link.2

def ItemSummary.Readable (summary : ItemSummary) : Prop :=
  ∀ segment ∈ summary.path, Text.Within allowed segment

structure ExternalCrate.Readable (external : ExternalCrate) : Prop where
  name : Text.Within allowed external.name
  htmlRootUrl : ∀ text ∈ external.htmlRootUrl, Text.Within allowed text

structure Crate.Readable (crate : Crate) : Prop where
  root : Text.Within allowed crate.root
  version : ∀ text ∈ crate.version, Text.Within allowed text
  index : ∀ entry ∈ crate.index.entries,
    Text.Within allowed entry.1 ∧ entry.2.Readable allowed
  paths : ∀ entry ∈ crate.paths.entries,
    Text.Within allowed entry.1 ∧ entry.2.Readable allowed
  externalCrates : ∀ entry ∈ crate.externalCrates.entries,
    Text.Within allowed entry.1 ∧ entry.2.Readable allowed

end Readable

/-! ### What the readers of items give -/

section Reading

variable {allowed : Char → Prop} (ascii : Text.AllowsAscii allowed) {value : Json String}
  (within : value.Within allowed)
include ascii within

theorem Text.within_of_mem_ids {key : String} {id : ItemId}
    (member : id ∈ (value.field key).ids) : Text.Within allowed id :=
  (within.field key).of_mem_ids ascii member

theorem Text.within_of_id? {key : String} {id : ItemId}
    (given : id ∈ (value.field key).id?) : Text.Within allowed id :=
  (within.field key).of_id? ascii given

theorem StructFields.readable_ofJson : (StructFields.ofJson value).Readable allowed := by
  unfold StructFields.ofJson
  split
  · next payload tagged =>
      exact fun id member => (within.of_tagged? tagged).2.of_some_mem_optionalIds ascii member
  · next payload tagged =>
      exact fun id member => Text.within_of_mem_ids ascii (within.of_tagged? tagged).2 member
  · trivial

theorem VariantFields.readable_ofJson : (VariantFields.ofJson value).Readable allowed := by
  unfold VariantFields.ofJson
  split
  · next payload tagged =>
      exact fun id member => (within.of_tagged? tagged).2.of_some_mem_optionalIds ascii member
  · next payload tagged =>
      exact fun id member => Text.within_of_mem_ids ascii (within.of_tagged? tagged).2 member
  · trivial

theorem StructBody.readable_ofJson : (StructBody.ofJson value).Readable allowed where
  fields := StructFields.readable_ofJson ascii (within.field "kind")
  generics := Generics.readable_ofJson ascii (within.field "generics")
  implementations _ member := Text.within_of_mem_ids ascii within member

theorem UnionBody.readable_ofJson : (UnionBody.ofJson value).Readable allowed where
  generics := Generics.readable_ofJson ascii (within.field "generics")
  fields _ member := Text.within_of_mem_ids ascii within member
  implementations _ member := Text.within_of_mem_ids ascii within member

theorem EnumBody.readable_ofJson : (EnumBody.ofJson value).Readable allowed where
  generics := Generics.readable_ofJson ascii (within.field "generics")
  variants _ member := Text.within_of_mem_ids ascii within member
  implementations _ member := Text.within_of_mem_ids ascii within member

omit ascii in
theorem Discriminant.readable_ofJson : (Discriminant.ofJson value).Readable allowed where
  expression _ given := within.of_string? given
  value _ given := within.of_string? given

theorem VariantBody.readable_ofJson : (VariantBody.ofJson value).Readable allowed where
  fields := VariantFields.readable_ofJson ascii (within.field "kind")
  discriminant discriminant given := by
    rcases Option.ite_none_right_eq_some.mp given with ⟨_, same⟩
    cases same
    exact Discriminant.readable_ofJson (within.field "discriminant")

theorem FunctionBody.readable_ofJson : (FunctionBody.ofJson value).Readable allowed where
  signature := (readersGive ascii _ (within.either "sig" "decl")).signature
  generics := Generics.readable_ofJson ascii (within.field "generics")
  header := FunctionHeader.readable_ofJson (within.field "header")

theorem TraitBody.readable_ofJson : (TraitBody.ofJson value).Readable allowed where
  generics := Generics.readable_ofJson ascii (within.field "generics")
  bounds := List.forall_mem_map.mpr fun bound member =>
    (readersGive ascii bound (within.of_mem_list member)).bound
  items _ member := Text.within_of_mem_ids ascii within member
  implementations _ member := Text.within_of_mem_ids ascii within member

theorem ImplementationBody.readable_ofJson :
    (ImplementationBody.ofJson value).Readable allowed where
  generics := Generics.readable_ofJson ascii (within.field "generics")
  trait := Option.forall_mem_map.mpr fun inner given =>
    (readersGive ascii inner (within.of_given? given)).path
  target := (readersGive ascii _ (within.field "for")).type
  items _ member := Text.within_of_mem_ids ascii within member
  blanket := Option.forall_mem_map.mpr fun inner given =>
    (readersGive ascii inner (within.of_given? given)).type

theorem UseBody.readable_ofJson : (UseBody.ofJson value).Readable allowed where
  source := within.string _
  name _ given := within.of_string? given
  id _ given := Text.within_of_id? ascii within given

theorem TypeAliasBody.readable_ofJson : (TypeAliasBody.ofJson value).Readable allowed where
  generics := Generics.readable_ofJson ascii (within.field "generics")
  type := Option.forall_mem_map.mpr fun inner given =>
    (readersGive ascii inner (within.of_given? given)).type

omit ascii in
theorem ConstantExpression.readable_ofJson :
    (ConstantExpression.ofJson value).Readable allowed where
  expression _ given := within.of_string? given
  value _ given := within.of_string? given

theorem ConstantBody.readable_ofJson : (ConstantBody.ofJson value).Readable allowed where
  type := (readersGive ascii _ (within.field "type")).type
  expression := by
    unfold ConstantBody.ofJson
    dsimp only
    split
    · rintro constant ⟨⟩
      exact ConstantExpression.readable_ofJson (within.field "const")
    · split
      · rintro constant ⟨⟩
        exact ConstantExpression.readable_ofJson within
      · rintro constant ⟨⟩

theorem StaticBody.readable_ofJson : (StaticBody.ofJson value).Readable allowed where
  type := (readersGive ascii _ (within.field "type")).type
  expression _ given := within.of_string? given

theorem AssociatedConstantBody.readable_ofJson :
    (AssociatedConstantBody.ofJson value).Readable allowed where
  type := (readersGive ascii _ (within.field "type")).type
  value _ given := within.of_string? given

theorem AssociatedTypeBody.readable_ofJson :
    (AssociatedTypeBody.ofJson value).Readable allowed where
  generics := Generics.readable_ofJson ascii (within.field "generics")
  bounds := List.forall_mem_map.mpr fun bound member =>
    (readersGive ascii bound (within.of_mem_list member)).bound
  type := by
    have inside := within.either "type" "default"
    unfold AssociatedTypeBody.ofJson
    dsimp only
    split
    · rintro type ⟨⟩
    · rintro type ⟨⟩
      exact (readersGive ascii _ inside).type

theorem ItemBody.readable_ofJson : (ItemBody.ofJson value).Readable allowed := by
  unfold ItemBody.ofJson
  split
  · exact unknownTag_none _ _
  · next tag payload tagged =>
      have inside := (within.of_tagged? tagged).2
      split
      · exact (readersGive ascii payload inside).type
      · exact Text.within_text?_getD inside Text.within_empty
      · exact fun _ member => Text.within_of_mem_ids ascii inside member
      · exact StructBody.readable_ofJson ascii inside
      · exact UnionBody.readable_ofJson ascii inside
      · exact EnumBody.readable_ofJson ascii inside
      · exact VariantBody.readable_ofJson ascii inside
      · exact FunctionBody.readable_ofJson ascii inside
      · exact TraitBody.readable_ofJson ascii inside
      · exact ImplementationBody.readable_ofJson ascii inside
      · exact UseBody.readable_ofJson ascii inside
      · exact UseBody.readable_ofJson ascii inside
      · exact TypeAliasBody.readable_ofJson ascii inside
      · exact TypeAliasBody.readable_ofJson ascii inside
      · exact ConstantBody.readable_ofJson ascii inside
      · exact StaticBody.readable_ofJson ascii inside
      · exact AssociatedConstantBody.readable_ofJson ascii inside
      · exact AssociatedTypeBody.readable_ofJson ascii inside
      · rw [ItemBody.Readable, unknownTag_some]
        exact ⟨by simp_all [ItemBody.tags], (within.of_tagged? tagged).1⟩

theorem Visibility.readable_ofJson : (Visibility.ofJson value).Readable allowed := by
  unfold Visibility.ofJson
  split
  · next payload tagged =>
      have inside := (within.of_tagged? tagged).2
      exact ⟨fun _ given => Text.within_of_id? ascii inside given,
        fun _ given => inside.of_string? given⟩
  all_goals trivial

omit ascii in
theorem Deprecation.readable_ofJson : (Deprecation.ofJson value).Readable allowed where
  since _ given := within.of_string? given
  note _ given := within.of_string? given

theorem Item.readable_ofFields : (Item.ofFields value).Readable allowed where
  id _ given := Text.within_of_id? ascii within given
  name _ given := within.of_string? given
  visibility := Visibility.readable_ofJson ascii (within.field "visibility")
  attributes _ member := within.of_mem_list member
  body := ItemBody.readable_ofJson ascii (within.field "inner")
  docs _ given := within.of_string? given
  span span given := by
    rcases Option.ite_none_right_eq_some.mp given with ⟨_, same⟩
    cases same
    exact (within.field "span").string _
  deprecation deprecation given := by
    rcases Option.ite_none_right_eq_some.mp given with ⟨_, same⟩
    cases same
    exact Deprecation.readable_ofJson (within.field "deprecation")
  links link member := by
    rcases List.mem_filterMap.mp (Table.mem_of_mem_ofEntries member) with
      ⟨⟨name, target⟩, listed, read⟩
    rcases Option.map_eq_some_iff.mp read with ⟨id, given, rfl⟩
    have own := (within.field "links").of_mem_record listed
    exact ⟨own.1, own.2.of_id? ascii given⟩

omit ascii within in
theorem Item.readable_placeholder {id : ItemId} (plain : Text.Within allowed id) :
    (Item.placeholder id).Readable allowed where
  id _ given := by
    cases given
    exact plain
  name _ given := by cases given
  visibility := trivial
  attributes _ member := by cases member
  body := unknownTag_none _ _
  docs _ given := by cases given
  span _ given := by cases given
  deprecation _ given := by cases given
  links _ member := by cases member

/-! ### What the readers of documents give -/

theorem Crate.readable_of_mem_indexOfJson {entry : String × Item}
    (member : entry ∈ (Crate.indexOfJson value).entries) :
    Text.Within allowed entry.1 ∧ entry.2.Readable allowed := by
  rcases List.mem_map.mp (Table.mem_of_mem_ofEntries member) with ⟨⟨id, item⟩, listed, rfl⟩
  have own := within.of_mem_record listed
  refine ⟨own.1, ?_⟩
  dsimp only
  split
  · exact Item.readable_ofFields ascii own.2
  · exact Item.readable_placeholder own.1

omit ascii in
theorem Crate.readable_of_mem_pathsOfJson {entry : String × ItemSummary}
    (member : entry ∈ (Crate.pathsOfJson value).entries) :
    Text.Within allowed entry.1 ∧ entry.2.Readable allowed := by
  rcases List.mem_map.mp (Table.mem_of_mem_ofEntries member) with ⟨⟨id, summary⟩, listed, rfl⟩
  have own := within.of_mem_record listed
  exact ⟨own.1, fun _ segment => own.2.of_mem_strings segment⟩

omit ascii in
theorem Crate.readable_of_mem_externalCratesOfJson {entry : String × ExternalCrate}
    (member : entry ∈ (Crate.externalCratesOfJson value).entries) :
    Text.Within allowed entry.1 ∧ entry.2.Readable allowed := by
  rcases List.mem_filterMap.mp (Table.mem_of_mem_ofEntries member) with
    ⟨⟨id, external⟩, listed, read⟩
  rcases Option.ite_none_right_eq_some.mp read with ⟨_, same⟩
  cases same
  have own := within.of_mem_record listed
  exact ⟨own.1, own.2.string _, fun _ given => own.2.of_string? given⟩

end Reading

theorem Crate.ofJson_eq_ok_iff {document : Json String} {crate : Crate} :
    Crate.ofJson document = .ok crate ↔
      ∃ root id, Entries.get? "root" document.record = some root ∧ root.id = .ok id ∧
        crate = Crate.ofFields id document := by
  unfold Crate.ofJson
  cases document with
  | obj entries =>
      cases found : Entries.get? "root" (Json.obj entries).record with
      | none => simp [Json.isObject, throw, throwThe, MonadExceptOf.throw]
      | some root =>
          cases known : root.id with
          | error cause =>
              simp [Json.isObject, known, bind, Except.bind]
          | ok id =>
              simp [Json.isObject, known, bind, Except.bind, pure, Except.pure, eq_comm]
  | null | bool | int | float | str | arr =>
      simp [Json.isObject, Json.record, Entries.get?, bind, Except.bind, throw, throwThe,
        MonadExceptOf.throw]

/-- A crate is made of the characters of its document and of ASCII, and it has the form that the
readers give. -/
theorem Crate.readable_of_ofJson {allowed : Char → Prop} (ascii : Text.AllowsAscii allowed)
    {document : Json String} (within : document.Within allowed) {crate : Crate}
    (read : Crate.ofJson document = .ok crate) : crate.Readable allowed := by
  rcases Crate.ofJson_eq_ok_iff.mp read with ⟨root, id, found, known, rfl⟩
  exact
    { root := (within.of_get? found).of_id? ascii (by rw [Json.id?, known]; rfl)
      version := fun _ given => (within.field "crate_version").of_text? given
      index := fun _ => Crate.readable_of_mem_indexOfJson ascii (within.field "index")
      paths := fun _ => Crate.readable_of_mem_pathsOfJson (within.field "paths")
      externalCrates := fun _ =>
        Crate.readable_of_mem_externalCratesOfJson (within.field "external_crates") }

end CrateGraph
