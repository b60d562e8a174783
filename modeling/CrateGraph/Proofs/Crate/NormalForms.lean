import Mathlib.Data.List.Basic
import CrateGraph.Proofs.Crate.ReadingBack

/-!
Written crates as normal forms of documents.

A crate that was read from any document at all is read again from the document that it is written
as, in the current format and in every mixture of it with the earlier ones. The crates of which this
is true are those that have the form the readers give, and no others.
-/

namespace CrateGraph

/-! ### Tables -/

namespace Table

variable {Value : Type}

theorem ext_entries {left right : Table Value} (same : left.entries = right.entries) :
    left = right := by
  cases left
  cases right
  cases same
  rfl

theorem entries_foldl_insert (entries : Entries String Value) (table : Table Value)
    (nodup : ((table.entries ++ entries).map Prod.fst).Nodup) :
    (entries.foldl (fun table (key, value) => table.insert key value) table).entries =
      table.entries ++ entries := by
  induction entries generalizing table with
  | nil => simp
  | cons entry rest induction =>
      obtain ⟨key, value⟩ := entry
      have fresh : key ∉ table.entries.map Prod.fst := by
        rw [List.map_append, List.nodup_append] at nodup
        exact fun member => nodup.2.2 key member key (by simp) rfl
      have inserted : (table.insert key value).entries = table.entries ++ [(key, value)] :=
        Entries.insert_of_not_mem fresh value
      rw [List.foldl_cons, induction _ (by simpa [inserted] using nodup), inserted]
      simp

theorem ofEntries_entries (table : Table Value) : Table.ofEntries table.entries = table := by
  refine ext_entries ?_
  rw [Table.ofEntries, entries_foldl_insert _ _ (by simpa [Table.empty] using table.nodup)]
  rfl

variable {write : Spelling → Value → Json String} {table : Table Value}

/-- The entries of a written table are read back if each is. -/
theorem filterMap_record_write {read : String × Json String → Option (String × Value)}
    (readBack : ∀ entry ∈ table.entries, ∀ spelling,
      read (entry.1, write spelling entry.2) = some entry) (spelling : Spelling) :
    (table.write spelling write).record.filterMap read = table.entries := by
  calc (table.write spelling write).record.filterMap read
      = table.entries.filterMap fun entry =>
          read (entry.1, write (spelling.under entry.1) entry.2) := List.filterMap_map
    _ = table.entries.filterMap some :=
          List.filterMap_congr fun entry member => readBack entry member _
    _ = table.entries := List.filterMap_some

theorem map_record_write {read : String × Json String → String × Value}
    (readBack : ∀ entry ∈ table.entries, ∀ spelling,
      read (entry.1, write spelling entry.2) = entry) (spelling : Spelling) :
    (table.write spelling write).record.map read = table.entries := by
  calc (table.write spelling write).record.map read
      = table.entries.map fun entry =>
          read (entry.1, write (spelling.under entry.1) entry.2) := List.map_map
    _ = table.entries.map id := List.map_congr_left fun entry member => readBack entry member _
    _ = table.entries := List.map_id _

end Table

/-! ### What an item declares -/

section Bodies

variable {allowed : Char → Prop}

theorem WherePredicate.ofJson_write {predicate : WherePredicate}
    (readable : predicate.Readable allowed) (spelling : Spelling) :
    WherePredicate.ofJson (predicate.write spelling) = predicate := by
  cases predicate with
  | bound type bounds parameters =>
      refine (WherePredicate.bound.injEq ..).mpr ⟨?_, ?_, ?_⟩
      · exact RustType.ofJson_write type readable.1 _
      · exact Spelling.map_each fun bound member _ spelling =>
          GenericBound.ofJson_write bound (readable.2.1 bound member) spelling
      · exact Spelling.map_each fun parameter member _ spelling =>
          GenericParameter.ofJson_write parameter (readable.2.2 parameter member) spelling
  | lifetime name outlives =>
      exact congrArg (WherePredicate.lifetime name) (Json.filterMap_text?_str outlives)
  | equality left right =>
      exact congrArg₂ WherePredicate.equality (RustType.ofJson_write left readable.1 _)
        (RustType.ofJson_write right readable.2 _)
  | unknown tag =>
      cases tag with
      | none => rfl
      | some tag =>
          rw [WherePredicate.Readable, unknownTag_some] at readable
          rw [WherePredicate.write, WherePredicate.ofJson]
          split <;> simp_all [Json.untagged, Json.tagged?, WherePredicate.tags]

theorem Generics.ofJson_write {generics : Generics} (readable : generics.Readable allowed)
    (spelling : Spelling) : Generics.ofJson (generics.write spelling) = generics := by
  refine (Generics.mk.injEq ..).mpr ⟨?_, ?_⟩
  · exact Spelling.map_each fun parameter member _ spelling =>
      GenericParameter.ofJson_write parameter (readable.1 parameter member) spelling
  · exact Spelling.map_each fun predicate member _ spelling =>
      WherePredicate.ofJson_write (readable.2 predicate member) spelling

theorem StructFields.ofJson_write (fields : StructFields) (spelling : Spelling) :
    StructFields.ofJson (fields.write spelling) = fields := by
  cases fields with
  | unit => rfl
  | tuple fields => exact congrArg StructFields.tuple (ItemId.optionalIds_writeGaps _ fields)
  | plain fields hasStripped =>
      refine (StructFields.plain.injEq ..).mpr ⟨ItemId.ids_writeAll _ fields, ?_⟩
      unfold ItemId.writeNamed Spelling.name
      split <;> rfl

theorem VariantFields.ofJson_write (fields : VariantFields) (spelling : Spelling) :
    VariantFields.ofJson (fields.write spelling) = fields := by
  cases fields with
  | plain => rfl
  | tuple fields => exact congrArg VariantFields.tuple (ItemId.optionalIds_writeGaps _ fields)
  | struct fields hasStripped =>
      refine (VariantFields.struct.injEq ..).mpr ⟨ItemId.ids_writeAll _ fields, ?_⟩
      unfold ItemId.writeNamed Spelling.name
      split <;> rfl

theorem StructBody.ofJson_write {body : StructBody} (readable : body.Readable allowed)
    (spelling : Spelling) : StructBody.ofJson (body.write spelling) = body :=
  (StructBody.mk.injEq ..).mpr
    ⟨StructFields.ofJson_write body.fields _, Generics.ofJson_write readable.generics _,
      ItemId.ids_writeAll _ body.implementations⟩

theorem UnionBody.ofJson_write {body : UnionBody} (readable : body.Readable allowed)
    (spelling : Spelling) : UnionBody.ofJson (body.write spelling) = body := by
  refine (UnionBody.mk.injEq ..).mpr
    ⟨Generics.ofJson_write readable.generics _, ItemId.ids_writeAll _ body.fields, ?_,
      ItemId.ids_writeAll _ body.implementations⟩
  unfold UnionBody.write Spelling.name
  split <;> rfl

theorem EnumBody.ofJson_write {body : EnumBody} (readable : body.Readable allowed)
    (spelling : Spelling) : EnumBody.ofJson (body.write spelling) = body := by
  refine (EnumBody.mk.injEq ..).mpr
    ⟨Generics.ofJson_write readable.generics _, ItemId.ids_writeAll _ body.variants, ?_,
      ItemId.ids_writeAll _ body.implementations⟩
  unfold EnumBody.write Spelling.name
  split <;> rfl

theorem Discriminant.ofJson_write (discriminant : Discriminant) :
    Discriminant.ofJson discriminant.write = discriminant :=
  (Discriminant.mk.injEq ..).mpr ⟨Json.string?_of_field rfl, Json.string?_of_field rfl⟩

theorem VariantBody.ofJson_write (body : VariantBody) (spelling : Spelling) :
    VariantBody.ofJson (body.write spelling) = body := by
  obtain ⟨fields, discriminant⟩ := body
  refine (VariantBody.mk.injEq ..).mpr ⟨VariantFields.ofJson_write fields _, ?_⟩
  cases discriminant with
  | none => rfl
  | some discriminant => exact congrArg some discriminant.ofJson_write

theorem FunctionBody.ofJson_write {body : FunctionBody} (readable : body.Readable allowed)
    (spelling : Spelling) : FunctionBody.ofJson (body.write spelling) = body := by
  refine (FunctionBody.mk.injEq ..).mpr
    ⟨?_, Generics.ofJson_write readable.generics _, FunctionHeader.ofJson_write _ body.header, rfl⟩
  refine Eq.trans (congrArg FunctionSignature.ofJson ?_)
    (FunctionSignature.ofJson_write body.signature readable.signature (spelling.under "sig"))
  unfold FunctionBody.write Spelling.name
  split <;> rfl

theorem TraitBody.ofJson_write {body : TraitBody} (readable : body.Readable allowed)
    (spelling : Spelling) : TraitBody.ofJson (body.write spelling) = body := by
  refine (TraitBody.mk.injEq ..).mpr
    ⟨Generics.ofJson_write readable.generics _, ?_, ItemId.ids_writeAll _ body.items,
      ItemId.ids_writeAll _ body.implementations, rfl, rfl, ?_⟩
  · exact Spelling.map_each fun bound member _ spelling =>
      GenericBound.ofJson_write bound (readable.bounds bound member) spelling
  · unfold TraitBody.write Spelling.name
    split <;> rfl

theorem ImplementationBody.ofJson_write {body : ImplementationBody}
    (readable : body.Readable allowed) (spelling : Spelling) :
    ImplementationBody.ofJson (body.write spelling) = body := by
  refine (ImplementationBody.mk.injEq ..).mpr
    ⟨Generics.ofJson_write readable.generics _, ?_,
      RustType.ofJson_write body.target readable.target _, ItemId.ids_writeAll _ body.items, rfl,
      ?_, ?_, ?_⟩
  · exact Json.map_given?_of_field rfl (fun _ _ => PathReference.write_ne_null _ _)
      fun reference given => PathReference.ofJson_write reference (readable.trait reference given) _
  · unfold ImplementationBody.write Spelling.name
    split <;> split <;> rfl
  · unfold ImplementationBody.write Spelling.name
    split <;> split <;> rfl
  · exact Json.map_given?_of_field rfl (fun _ _ => RustType.write_ne_null _ _)
      fun type given => RustType.ofJson_write type (readable.blanket type given) _

theorem UseBody.ofJson_write (body : UseBody) (spelling : Spelling) :
    UseBody.ofJson (body.write spelling) = body := by
  refine (UseBody.mk.injEq ..).mpr
    ⟨rfl, Json.string?_of_field rfl, ItemId.id?_writeOptional _ body.id, ?_⟩
  unfold UseBody.write Spelling.name
  split <;> rfl

theorem TypeAliasBody.ofJson_write {body : TypeAliasBody} (readable : body.Readable allowed)
    (spelling : Spelling) : TypeAliasBody.ofJson (body.write spelling) = body := by
  refine (TypeAliasBody.mk.injEq ..).mpr ⟨Generics.ofJson_write readable.generics _, ?_⟩
  exact Json.map_given?_of_field rfl (fun _ _ => RustType.write_ne_null _ _)
    fun type given => RustType.ofJson_write type (readable.type type given) _

theorem ConstantExpression.ofJson_entries (constant : ConstantExpression) :
    ConstantExpression.ofJson (.obj constant.entries) = constant :=
  (ConstantExpression.mk.injEq ..).mpr
    ⟨Json.string?_of_field rfl, Json.string?_of_field rfl, rfl⟩

theorem ConstantBody.ofJson_write {body : ConstantBody} (readable : body.Readable allowed)
    (spelling : Spelling) : ConstantBody.ofJson (body.write spelling) = body := by
  obtain ⟨type, expression⟩ := body
  refine (ConstantBody.mk.injEq ..).mpr ⟨RustType.ofJson_write type readable.type _, ?_⟩
  cases expression with
  | none => rfl
  | some constant =>
      unfold ConstantBody.write
      dsimp only
      split
      -- Among the fields of the constant, those of the expression are found as well.
      · refine congrArg some ?_
        exact (ConstantExpression.mk.injEq ..).mpr
          ⟨Json.string?_of_field rfl, Json.string?_of_field rfl, rfl⟩
      · exact congrArg some constant.ofJson_entries

theorem StaticBody.ofJson_write {body : StaticBody} (readable : body.Readable allowed)
    (spelling : Spelling) : StaticBody.ofJson (body.write spelling) = body := by
  refine (StaticBody.mk.injEq ..).mpr
    ⟨RustType.ofJson_write body.type readable.type _, ?_, rfl, Json.string?_of_field rfl⟩
  unfold StaticBody.write Spelling.name
  split <;> rfl

theorem AssociatedConstantBody.ofJson_write {body : AssociatedConstantBody}
    (readable : body.Readable allowed) (spelling : Spelling) :
    AssociatedConstantBody.ofJson (body.write spelling) = body := by
  obtain ⟨type, value⟩ := body
  refine (AssociatedConstantBody.mk.injEq ..).mpr
    ⟨RustType.ofJson_write type readable.type _, ?_⟩
  unfold AssociatedConstantBody.write Spelling.name
  cases value <;> split <;> rfl

theorem AssociatedTypeBody.ofJson_write {body : AssociatedTypeBody}
    (readable : body.Readable allowed) (spelling : Spelling) :
    AssociatedTypeBody.ofJson (body.write spelling) = body := by
  obtain ⟨generics, bounds, type⟩ := body
  refine (AssociatedTypeBody.mk.injEq ..).mpr ⟨Generics.ofJson_write readable.generics _, ?_, ?_⟩
  · exact Spelling.map_each fun bound member _ spelling =>
      GenericBound.ofJson_write bound (readable.bounds bound member) spelling
  · have written :
        (AssociatedTypeBody.write spelling ⟨generics, bounds, type⟩).either "type" "default" =
          .optional type fun type _ => type.write (spelling.under "type") := by
      unfold AssociatedTypeBody.write Spelling.name
      split <;> rfl
    rw [written]
    cases type with
    | none => rfl
    | some type =>
        rw [Json.optional]
        split
        · next isNull => exact absurd isNull (RustType.write_ne_null _ type)
        · rw [RustType.ofJson_write type (readable.type type rfl)]

theorem ItemBody.ofJson_write {body : ItemBody} (readable : body.Readable allowed)
    (spelling : Spelling) : ItemBody.ofJson (body.write spelling) = body := by
  cases body with
  | module body =>
      exact congrArg ItemBody.module ((ModuleBody.mk.injEq ..).mpr
        ⟨ItemId.ids_writeAll _ body.items, rfl, rfl⟩)
  | struct body => exact congrArg ItemBody.struct (StructBody.ofJson_write readable _)
  | union body => exact congrArg ItemBody.union (UnionBody.ofJson_write readable _)
  | enum body => exact congrArg ItemBody.enum (EnumBody.ofJson_write readable _)
  | variant body => exact congrArg ItemBody.variant (VariantBody.ofJson_write body _)
  | function body => exact congrArg ItemBody.function (FunctionBody.ofJson_write readable _)
  | trait body => exact congrArg ItemBody.trait (TraitBody.ofJson_write readable _)
  | implementation body =>
      exact congrArg ItemBody.implementation (ImplementationBody.ofJson_write readable _)
  | reexport body =>
      have same := congrArg ItemBody.reexport (UseBody.ofJson_write body (spelling.under "use"))
      rw [ItemBody.write, Spelling.name]
      split <;> exact same
  | typeAlias body =>
      have same := congrArg ItemBody.typeAlias
        (TypeAliasBody.ofJson_write readable (spelling.under "type_alias"))
      rw [ItemBody.write, Spelling.name]
      split <;> exact same
  | constant body => exact congrArg ItemBody.constant (ConstantBody.ofJson_write readable _)
  | static body => exact congrArg ItemBody.static (StaticBody.ofJson_write readable _)
  | field type => exact congrArg ItemBody.field (RustType.ofJson_write type readable _)
  | macroSource source => rfl
  | associatedConstant body =>
      exact congrArg ItemBody.associatedConstant (AssociatedConstantBody.ofJson_write readable _)
  | associatedType body =>
      exact congrArg ItemBody.associatedType (AssociatedTypeBody.ofJson_write readable _)
  | unknown tag =>
      cases tag with
      | none => rfl
      | some tag =>
          rw [ItemBody.Readable, unknownTag_some] at readable
          simp only [ItemBody.write, Json.untagged, ItemBody.ofJson, Json.tagged?]
          split <;> simp_all [ItemBody.tags]

end Bodies

/-! ### Items -/

theorem Visibility.ofJson_write (visibility : Visibility) (spelling : Spelling) :
    Visibility.ofJson (visibility.write spelling) = visibility := by
  cases visibility with
  | everywhere => rfl
  | inherited => rfl
  | crateWide => rfl
  | restricted parent path =>
      exact (Visibility.restricted.injEq ..).mpr
        ⟨ItemId.id?_writeOptional _ parent, Json.string?_of_field rfl⟩

theorem Coordinate.ofJson?_write (coordinate : Coordinate) :
    Coordinate.ofJson? coordinate.write = some coordinate := by
  cases coordinate <;> rfl

theorem Span.ofJson?_write (span : Span) : Span.ofJson? span.write = some span := by
  have position : ∀ place : Coordinate × Coordinate,
      Span.positionOfJson (.arr [place.1.write, place.2.write]) = place := by
    intro place
    rw [Span.positionOfJson, Json.items, List.map_cons, List.map_cons, List.map_nil,
      Coordinate.ofJson?_write, Coordinate.ofJson?_write]
  exact congrArg some ((Span.mk.injEq ..).mpr ⟨rfl, position span.start, position span.stop⟩)

theorem Deprecation.ofJson_write (deprecation : Deprecation) :
    Deprecation.ofJson deprecation.write = deprecation :=
  (Deprecation.mk.injEq ..).mpr ⟨Json.string?_of_field rfl, Json.string?_of_field rfl⟩

theorem Item.linksOfJson_write (links : Table ItemId) (spelling : Spelling) :
    Item.linksOfJson (links.write spelling ItemId.write) = links := by
  refine (congrArg Table.ofEntries (Table.filterMap_record_write ?_ spelling)).trans
    (Table.ofEntries_entries links)
  intro link _ spelling
  exact congrArg (Option.map _) (ItemId.id?_write spelling link.2)

theorem Item.ofFields_write {allowed : Char → Prop} {item : Item}
    (readable : item.Readable allowed) (spelling : Spelling) :
    Item.ofFields (item.write spelling) = item := by
  obtain ⟨id, name, visibility, attributes, body, crateId, docs, span, deprecation, links⟩ := item
  refine (Item.mk.injEq ..).mpr
    ⟨ItemId.id?_writeOptional _ id, Json.string?_of_field rfl, Visibility.ofJson_write visibility _,
      rfl, ItemBody.ofJson_write readable.body _, rfl, Json.string?_of_field rfl, ?_, ?_,
      Item.linksOfJson_write links _⟩
  · cases span with
    | none => rfl
    | some span => exact span.ofJson?_write
  · cases deprecation with
    | none => rfl
    | some deprecation => exact congrArg some deprecation.ofJson_write

/-! ### Documents -/

theorem ItemKind.ofTag_tag (kind : ItemKind) : ItemKind.ofTag kind.tag = kind := by
  cases kind <;> rfl

theorem ItemKind.ofJson_write (kind : ItemKind) (spelling : Spelling) :
    ItemKind.ofJson (kind.write spelling) = kind := by
  unfold ItemKind.write
  split
  · next earlier =>
      rw [eq_of_beq (Bool.and_eq_true_iff.mp earlier).2]
      rfl
  · exact kind.ofTag_tag

theorem ItemSummary.ofJson_write (summary : ItemSummary) (spelling : Spelling) :
    ItemSummary.ofJson (summary.write spelling) = summary :=
  (ItemSummary.mk.injEq ..).mpr
    ⟨Json.filterMap_text?_str summary.path, ItemKind.ofJson_write summary.kind _, rfl⟩

theorem ExternalCrate.ofJson_write (external : ExternalCrate) :
    ExternalCrate.ofJson external.write = external :=
  (ExternalCrate.mk.injEq ..).mpr ⟨rfl, Json.string?_of_field rfl⟩

theorem Crate.indexOfJson_write {allowed : Char → Prop} {index : Table Item}
    (readable : ∀ entry ∈ index.entries, entry.2.Readable allowed) (spelling : Spelling) :
    Crate.indexOfJson (index.write spelling Item.write) = index := by
  refine (congrArg Table.ofEntries (Table.map_record_write ?_ spelling)).trans
    (Table.ofEntries_entries index)
  intro entry member spelling
  exact congrArg (Prod.mk entry.1) (Item.ofFields_write (readable entry member) spelling)

theorem Crate.pathsOfJson_write (paths : Table ItemSummary) (spelling : Spelling) :
    Crate.pathsOfJson (paths.write spelling ItemSummary.write) = paths := by
  refine (congrArg Table.ofEntries (Table.map_record_write ?_ spelling)).trans
    (Table.ofEntries_entries paths)
  intro entry _ spelling
  exact congrArg (Prod.mk entry.1) (ItemSummary.ofJson_write entry.2 spelling)

theorem Crate.externalCratesOfJson_write (crates : Table ExternalCrate) (spelling : Spelling) :
    Crate.externalCratesOfJson (crates.write spelling fun _ => ExternalCrate.write) = crates := by
  refine (congrArg Table.ofEntries (Table.filterMap_record_write ?_ spelling)).trans
    (Table.ofEntries_entries crates)
  intro entry _ _
  exact congrArg (fun external => some (entry.1, external)) entry.2.ofJson_write

/-- A crate of the form that the readers give is read from what it is written as. -/
theorem Crate.ofJson_write {allowed : Char → Prop} {crate : Crate}
    (readable : crate.Readable allowed) (spelling : Spelling) :
    Crate.ofJson (crate.write spelling) = .ok crate := by
  refine Crate.ofJson_eq_ok_iff.mpr ⟨_, crate.root, rfl, ItemId.id_write _ crate.root, ?_⟩
  have items := fun entry member => (readable.index entry member).2
  exact ((Crate.mk.injEq ..).mpr
    ⟨rfl, Json.text?_optionalText crate.version, Crate.indexOfJson_write items _,
      Crate.pathsOfJson_write crate.paths _,
      Crate.externalCratesOfJson_write crate.externalCrates (spelling.under "external_crates"),
      rfl, rfl⟩).symm

/-- The form that every document gives, whatever its characters. -/
theorem Crate.readable_of_read {document : Json String} {crate : Crate}
    (read : Crate.ofJson document = .ok crate) : crate.Readable fun _ => True :=
  Crate.readable_of_ofJson (fun _ _ => trivial) document.within_true read

/-! ### Normal forms -/

/-- Reading a document, writing the crate and reading it again loses nothing. The crates that the
current format can carry are those of the form that the readers give. -/
theorem Crate.read_toJson :
    (∀ document, (Crate.ofJson document >>= fun crate => Crate.ofJson crate.toJson) =
      Crate.ofJson document) ∧
    ∀ crate : Crate, Crate.ofJson crate.toJson = .ok crate ↔ crate.Readable fun _ => True := by
  refine ⟨fun document => ?_, fun crate => ⟨Crate.readable_of_read, ?_⟩⟩
  · cases read : Crate.ofJson document with
    | error cause => rfl
    | ok crate => exact Crate.ofJson_write (Crate.readable_of_read read) .current
  · exact fun readable => Crate.ofJson_write readable .current

/-- A crate that comes from a document is read from each of its spellings, and a crate that is read
from one of them comes from a document. -/
theorem Crate.read_write_iff (crate : Crate) (spelling : Spelling) :
    (∃ document, Crate.ofJson document = .ok crate) ↔
      Crate.ofJson (crate.write spelling) = .ok crate := by
  constructor
  · rintro ⟨document, read⟩
    exact Crate.ofJson_write (Crate.readable_of_read read) spelling
  · exact fun read => ⟨_, read⟩

end CrateGraph
