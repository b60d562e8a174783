import CrateGraph.Proofs.Crate.ReadingEquations
import CrateGraph.Proofs.Crate.Shapes

/-!
Fields that no reader looks up.

Every reader gives the same of a value and of an extension of it by the shape that it reads. For the
parts of type references this is one induction on the size of the value, since each of them may
occur in each of the others; for items and documents it goes reader by reader.
-/

namespace CrateGraph

open Shape (wholes typePayloads)

/-! ### Type references -/

/-- The reader of the part makes the same of both values. -/
def TypePart.Agrees (value other : Json String) : TypePart → Prop
  | .type => RustType.ofJson other = RustType.ofJson value
  | .path => PathReference.ofJson other = PathReference.ofJson value
  | .arguments => GenericArguments.ofJson other = GenericArguments.ofJson value
  | .argument => GenericArgument.ofJson other = GenericArgument.ofJson value
  | .constraint => AssociatedConstraint.ofJson other = AssociatedConstraint.ofJson value
  | .bound => GenericBound.ofJson other = GenericBound.ofJson value
  | .parameterKind => GenericParameterKind.ofJson other = GenericParameterKind.ofJson value
  | .parameter => GenericParameter.ofJson other = GenericParameter.ofJson value
  | .polyTrait => PolyTrait.ofJson other = PolyTrait.ofJson value
  | .signature => FunctionSignature.ofJson other = FunctionSignature.ofJson value

theorem FunctionHeader.ofJson_extension {value other : Json String}
    (extension : Extends Shape.header value other) :
    FunctionHeader.ofJson other = FunctionHeader.ofJson value := by
  exact (FunctionHeader.mk.injEq ..).mpr
    ⟨extension.flag_eq rfl, extension.flag_eq rfl, extension.flag_eq rfl, extension.field_eq _ rfl⟩

section Parts

variable {value other : Json String}
  (parts : ∀ (part : TypePart) (inner outer : Json String), sizeOf inner < sizeOf value →
    Extends (.part part) inner outer → part.Agrees inner outer)
include parts

theorem RustType.ofJson_extension (extension : Extends TypePart.type.shape value other) :
    RustType.ofJson other = RustType.ofJson value := by
  cases extension with
  | same => rfl
  | @union _ tag shape payload inner known inside =>
      have smaller : sizeOf payload < sizeOf (Json.obj [(tag, payload)]) :=
        Json.sizeOf_lt_of_tagged? rfl
      rw [RustType.ofJson_eq, RustType.ofJson_eq (.obj [(tag, payload)])]
      simp only [typePayloads, List.mem_cons, Prod.mk.injEq, List.not_mem_nil, or_false] at known
      rcases known with ⟨rfl, rfl⟩ | ⟨rfl, rfl⟩ | ⟨rfl, rfl⟩ | ⟨rfl, rfl⟩ | ⟨rfl, rfl⟩ |
        ⟨rfl, rfl⟩ | ⟨rfl, rfl⟩ | ⟨rfl, rfl⟩ | ⟨rfl, rfl⟩ | ⟨rfl, rfl⟩
      · exact congrArg RustType.path (parts .path payload inner smaller inside)
      · exact congrArg RustType.tuple (inside.items.map_eq fun item outer member extension =>
          parts .type item outer (by grind) extension)
      · exact congrArg RustType.slice (parts .type payload inner smaller inside)
      · exact congrArg₂ RustType.array (parts .type _ _ (by grind) (inside.field _ rfl))
          (by rw [inside.get?_eq rfl])
      · exact congrArg₂ RustType.rawPointer (parts .type _ _ (by grind) (inside.field _ rfl))
          (inside.flag_eq rfl)
      · exact (RustType.borrowed.injEq ..).mpr ⟨parts .type _ _ (by grind) (inside.field _ rfl),
          inside.flag_eq rfl, inside.string?_eq rfl⟩
      · refine (RustType.functionPointer.injEq ..).mpr ⟨?_, ?_, ?_⟩
        · exact parts .signature _ _ (by grind) (inside.either rfl rfl)
        · exact (inside.itemsOf rfl).map_eq fun item outer member extension =>
            parts .parameter item outer (by grind) extension
        · exact FunctionHeader.ofJson_extension (inside.field _ rfl)
      · refine (RustType.qualified.injEq ..).mpr ⟨inside.string_eq rfl, ?_, ?_, ?_⟩
        · exact parts .type _ _ (by grind) (inside.field _ rfl)
        · exact map_eq_of_rel (inside.given? rfl) fun part outer given extension =>
            parts .path part outer (by grind) extension
        · exact map_eq_of_rel (inside.given? rfl) fun part outer given extension =>
            parts .arguments part outer (by grind) extension
      · exact congrArg RustType.implTrait (inside.items.map_eq fun item outer member extension =>
          parts .bound item outer (by grind) extension)
      · refine congrArg₂ RustType.dynTrait ?_ (inside.string?_eq rfl)
        exact (inside.itemsOf rfl).map_eq fun item outer member extension =>
          parts .polyTrait item outer (by grind) extension

theorem PathReference.ofJson_extension (extension : Extends TypePart.path.shape value other) :
    PathReference.ofJson other = PathReference.ofJson value := by
  rw [PathReference.ofJson_eq, PathReference.ofJson_eq value]
  refine (PathReference.mk.injEq ..).mpr ⟨extension.string_eq rfl, ?_, ?_⟩
  · rw [extension.field_eq _ rfl]
  · exact map_eq_of_rel (extension.given? rfl) fun part outer given extension =>
      parts .arguments part outer (by grind) extension

theorem GenericArguments.ofJson_extension
    (extension : Extends TypePart.arguments.shape value other) :
    GenericArguments.ofJson other = GenericArguments.ofJson value := by
  cases extension with
  | same => rfl
  | @union _ tag shape payload inner known inside =>
      have smaller : sizeOf payload < sizeOf (Json.obj [(tag, payload)]) :=
        Json.sizeOf_lt_of_tagged? rfl
      rw [GenericArguments.ofJson_eq, GenericArguments.ofJson_eq (.obj [(tag, payload)])]
      simp only [List.mem_cons, Prod.mk.injEq, List.not_mem_nil, or_false] at known
      rcases known with ⟨rfl, rfl⟩ | ⟨rfl, rfl⟩
      · refine congrArg₂ GenericArguments.angleBracketed ?_ ?_
        · exact (inside.itemsOf rfl).map_eq fun item outer member extension =>
            parts .argument item outer (by grind) extension
        -- Which of the two lists counts depends on whether the first is empty.
        · have constraints : ExtendsItems (.part .constraint) (payload.list "constraints")
              (inner.list "constraints") := inside.itemsOf rfl
          rw [constraints.isEmpty_eq]
          split
          · exact (inside.itemsOf rfl).map_eq fun item outer member extension =>
              parts .constraint item outer (by grind) extension
          · exact constraints.map_eq fun item outer member extension =>
              parts .constraint item outer (by grind) extension
      · refine congrArg₂ GenericArguments.parenthesized ?_ ?_
        · exact (inside.itemsOf rfl).map_eq fun item outer member extension =>
            parts .type item outer (by grind) extension
        · exact map_eq_of_rel (inside.given? rfl) fun part outer given extension =>
            parts .type part outer (by grind) extension

theorem GenericArgument.ofJson_extension (extension : Extends TypePart.argument.shape value other) :
    GenericArgument.ofJson other = GenericArgument.ofJson value := by
  cases extension with
  | same => rfl
  | @union _ tag shape payload inner known inside =>
      have smaller : sizeOf payload < sizeOf (Json.obj [(tag, payload)]) :=
        Json.sizeOf_lt_of_tagged? rfl
      rw [GenericArgument.ofJson_eq, GenericArgument.ofJson_eq (.obj [(tag, payload)])]
      simp only [List.mem_cons, Prod.mk.injEq, List.not_mem_nil, or_false] at known
      rcases known with ⟨rfl, rfl⟩ | ⟨rfl, rfl⟩
      · exact congrArg GenericArgument.type (parts .type payload inner smaller inside)
      · exact (GenericArgument.const.injEq ..).mpr
          ⟨inside.string?_eq rfl, inside.string?_eq rfl, inside.flag_eq rfl⟩

/-- A term that is extended under the tag of a type has an extended type there; a term that is
extended under the tag of a kind of type is itself the extended type. -/
theorem EqualityTerm.ofJson_extension {term outer : Json String}
    (smaller : sizeOf term < sizeOf value)
    (extension : Extends (.union (("type", .part .type) :: typePayloads)) term outer) :
    (EqualityTerm.ofJson outer).type?.map RustType.ofJson =
      (EqualityTerm.ofJson term).type?.map RustType.ofJson := by
  cases extension with
  | same => rfl
  | @union _ tag shape payload inner known inside =>
      rcases List.mem_cons.mp known with equal | ofType
      · cases equal
        have inTerm : sizeOf payload < sizeOf (Json.obj [("type", payload)]) :=
          Json.sizeOf_lt_of_tagged? rfl
        exact congrArg some (parts .type payload inner (by omega) inside)
      · have alone : ∀ payload, EqualityTerm.ofJson (.obj [(tag, payload)]) =
            .type (.obj [(tag, payload)]) := by
          intro payload
          simp only [typePayloads, List.mem_cons, Prod.mk.injEq, List.not_mem_nil, or_false]
            at ofType
          rcases ofType with ⟨rfl, _⟩ | ⟨rfl, _⟩ | ⟨rfl, _⟩ | ⟨rfl, _⟩ | ⟨rfl, _⟩ | ⟨rfl, _⟩ |
            ⟨rfl, _⟩ | ⟨rfl, _⟩ | ⟨rfl, _⟩ | ⟨rfl, _⟩ <;> rfl
        rw [alone, alone]
        exact congrArg some (parts .type _ _ smaller (.part (.union ofType inside)))

theorem AssociatedConstraint.ofJson_extension
    (extension : Extends TypePart.constraint.shape value other) :
    AssociatedConstraint.ofJson other = AssociatedConstraint.ofJson value := by
  have inBinding := extension.field "binding" rfl
  have fits := value.sizeOf_field_le "binding"
  rw [AssociatedConstraint.ofJson_eq, AssociatedConstraint.ofJson_eq value]
  refine (AssociatedConstraint.mk.injEq ..).mpr ⟨extension.string_eq rfl, ?_, ?_⟩
  · exact map_eq_of_rel (extension.given? rfl) fun part outer given extension =>
      parts .arguments part outer (by grind) extension
  · generalize value.field "binding" = binding at inBinding fits
    generalize other.field "binding" = outer at inBinding
    cases inBinding with
    | same => exact ⟨rfl, rfl⟩
    | @union _ tag shape terms inner known inside =>
        have smaller : sizeOf terms < sizeOf (Json.obj [(tag, terms)]) :=
          Json.sizeOf_lt_of_tagged? rfl
        simp only [List.mem_cons, Prod.mk.injEq, List.not_mem_nil, or_false] at known
        rcases known with ⟨rfl, rfl⟩ | ⟨rfl, rfl⟩
        · exact ⟨EqualityTerm.ofJson_extension parts (by omega) inside, rfl⟩
        · exact ⟨rfl, inside.items.map_eq fun item outer member extension =>
            parts .bound item outer (by grind) extension⟩

theorem GenericBound.ofJson_extension (extension : Extends TypePart.bound.shape value other) :
    GenericBound.ofJson other = GenericBound.ofJson value := by
  cases extension with
  | same => rfl
  | @union _ tag shape payload inner known inside =>
      have smaller : sizeOf payload < sizeOf (Json.obj [(tag, payload)]) :=
        Json.sizeOf_lt_of_tagged? rfl
      rw [GenericBound.ofJson_eq, GenericBound.ofJson_eq (.obj [(tag, payload)])]
      simp only [List.mem_cons, Prod.mk.injEq, List.not_mem_nil, or_false] at known
      obtain ⟨rfl, rfl⟩ := known
      refine (GenericBound.trait.injEq ..).mpr ⟨?_, ?_, ?_⟩
      · exact parts .path _ _ (by grind) (inside.field _ rfl)
      · rw [inside.field_eq _ rfl]
      · exact (inside.itemsOf rfl).map_eq fun item outer member extension =>
          parts .parameter item outer (by grind) extension

theorem GenericParameterKind.ofJson_extension
    (extension : Extends TypePart.parameterKind.shape value other) :
    GenericParameterKind.ofJson other = GenericParameterKind.ofJson value := by
  cases extension with
  | same => rfl
  | @union _ tag shape payload inner known inside =>
      have smaller : sizeOf payload < sizeOf (Json.obj [(tag, payload)]) :=
        Json.sizeOf_lt_of_tagged? rfl
      rw [GenericParameterKind.ofJson_eq, GenericParameterKind.ofJson_eq (.obj [(tag, payload)])]
      simp only [List.mem_cons, Prod.mk.injEq, List.not_mem_nil, or_false] at known
      rcases known with ⟨rfl, rfl⟩ | ⟨rfl, rfl⟩ | ⟨rfl, rfl⟩
      · exact congrArg GenericParameterKind.lifetime (inside.strings_eq rfl)
      · refine (GenericParameterKind.type.injEq ..).mpr ⟨?_, ?_, inside.flag_eq rfl⟩
        · exact (inside.itemsOf rfl).map_eq fun item outer member extension =>
            parts .bound item outer (by grind) extension
        · exact map_eq_of_rel (inside.given? rfl) fun part outer given extension =>
            parts .type part outer (by grind) extension
      · exact congrArg₂ GenericParameterKind.const (parts .type _ _ (by grind) (inside.field _ rfl))
          (inside.string?_eq rfl)

theorem FunctionSignature.ofJson_extension
    (extension : Extends TypePart.signature.shape value other) :
    FunctionSignature.ofJson other = FunctionSignature.ofJson value := by
  rw [FunctionSignature.ofJson_eq, FunctionSignature.ofJson_eq value]
  refine (FunctionSignature.mk.injEq ..).mpr ⟨?_, ?_, extension.flag_eq rfl⟩
  · refine (extension.itemsOf rfl).filterMap_eq fun item outer member extension => ?_
    cases extension with
    | same => rfl
    | @pair _ _ name type otherName otherType inName inType =>
        have smaller : sizeOf type < sizeOf (Json.arr [name, type]) :=
          FunctionInput.sizeOf_lt_of_parts? rfl
        rw [inName.eq_of_whole]
        exact congrArg (fun type => some (FunctionInput.mk (name.text?.getD "") type))
          (parts .type type otherType (by grind) inType)
  · exact map_eq_of_rel (extension.given? rfl) fun part outer given extension =>
      parts .type part outer (by grind) extension

end Parts

/-- No reader of a part of type references looks at the further fields of an extension. -/
theorem TypePart.agrees_of_extends (part : TypePart) (value other : Json String)
    (extension : Extends (.part part) value other) : part.Agrees value other := by
  have parts : ∀ whole : Json String, sizeOf whole ≤ sizeOf value →
      ∀ (part : TypePart) (inner outer : Json String), sizeOf inner < sizeOf whole →
        Extends (.part part) inner outer → part.Agrees inner outer :=
    fun whole fits part inner outer smaller extension =>
      part.agrees_of_extends inner outer extension
  have own := parts value (Nat.le_refl _)
  have inField := fun key => parts (value.field key) (value.sizeOf_field_le key)
  have inside := extension.of_part
  cases part with
  | type => exact RustType.ofJson_extension own inside
  | path => exact PathReference.ofJson_extension own inside
  | arguments => exact GenericArguments.ofJson_extension own inside
  | argument => exact GenericArgument.ofJson_extension own inside
  | constraint => exact AssociatedConstraint.ofJson_extension own inside
  | bound => exact GenericBound.ofJson_extension own inside
  | parameterKind => exact GenericParameterKind.ofJson_extension own inside
  | parameter =>
      rw [TypePart.Agrees, GenericParameter.ofJson_eq, GenericParameter.ofJson_eq value]
      exact congrArg₂ GenericParameter.mk (inside.string_eq rfl)
        (GenericParameterKind.ofJson_extension (inField "kind") (inside.field _ rfl).of_part)
  | polyTrait =>
      rw [TypePart.Agrees, PolyTrait.ofJson_eq, PolyTrait.ofJson_eq value]
      refine congrArg₂ PolyTrait.mk
        (PathReference.ofJson_extension (inField "trait") (inside.field _ rfl).of_part) ?_
      exact (inside.itemsOf rfl).map_eq fun item outer member extension =>
        own .parameter item outer (by grind) extension
  | signature => exact FunctionSignature.ofJson_extension own inside
termination_by sizeOf value
decreasing_by omega

/-! ### What an item declares -/

section Bodies

variable {value other : Json String}

theorem Extends.ids_eq {fields : List (String × Shape)} {key : String}
    (extension : Extends (.record fields) value other)
    (known : Entries.get? key fields = some .whole) :
    (other.field key).ids = (value.field key).ids := by
  rw [extension.field_eq key known]

theorem Extends.bounds_eq {fields : List (String × Shape)} {key : String}
    (extension : Extends (.record fields) value other)
    (known : Entries.get? key fields = some (.list (.part .bound))) :
    (other.list key).map GenericBound.ofJson = (value.list key).map GenericBound.ofJson :=
  (extension.itemsOf known).map_eq fun item outer _ => TypePart.agrees_of_extends .bound item outer

theorem Extends.parameters_eq {fields : List (String × Shape)} {key : String}
    (extension : Extends (.record fields) value other)
    (known : Entries.get? key fields = some (.list (.part .parameter))) :
    (other.list key).map GenericParameter.ofJson = (value.list key).map GenericParameter.ofJson :=
  (extension.itemsOf known).map_eq fun item outer _ =>
    TypePart.agrees_of_extends .parameter item outer

theorem Extends.type_eq {fields : List (String × Shape)} {key : String}
    (extension : Extends (.record fields) value other)
    (known : Entries.get? key fields = some (.part .type)) :
    RustType.ofJson (other.field key) = RustType.ofJson (value.field key) :=
  TypePart.agrees_of_extends .type _ _ (extension.field key known)

theorem Extends.type?_eq {fields : List (String × Shape)} {key : String}
    (extension : Extends (.record fields) value other)
    (known : Entries.get? key fields = some (.part .type)) :
    (other.given? key).map RustType.ofJson = (value.given? key).map RustType.ofJson :=
  map_eq_of_rel (extension.given? known) fun part outer _ =>
    TypePart.agrees_of_extends .type part outer

theorem WherePredicate.ofJson_extension (extension : Extends Shape.predicate value other) :
    WherePredicate.ofJson other = WherePredicate.ofJson value := by
  cases extension with
  | same => rfl
  | @union _ tag shape payload inner known inside =>
      simp only [List.mem_cons, Prod.mk.injEq, List.not_mem_nil, or_false] at known
      rcases known with ⟨rfl, rfl⟩ | ⟨rfl, rfl⟩ | ⟨rfl, rfl⟩
      · exact (WherePredicate.bound.injEq ..).mpr
          ⟨inside.type_eq rfl, inside.bounds_eq rfl, inside.parameters_eq rfl⟩
      · exact congrArg₂ WherePredicate.lifetime (inside.string_eq rfl) (inside.strings_eq rfl)
      · exact congrArg₂ WherePredicate.equality (inside.type_eq rfl) (inside.type_eq rfl)

theorem Generics.ofJson_extension (extension : Extends Shape.generics value other) :
    Generics.ofJson other = Generics.ofJson value :=
  congrArg₂ Generics.mk (extension.parameters_eq rfl)
    ((extension.itemsOf rfl).map_eq fun _ _ _ => WherePredicate.ofJson_extension)

theorem Extends.generics_eq {fields : List (String × Shape)}
    (extension : Extends (.record fields) value other)
    (known : Entries.get? "generics" fields = some Shape.generics) :
    Generics.ofJson (other.field "generics") = Generics.ofJson (value.field "generics") :=
  Generics.ofJson_extension (extension.field _ known)

theorem StructFields.ofJson_extension
    (extension : Extends (.union [("plain", Shape.namedFields)]) value other) :
    StructFields.ofJson other = StructFields.ofJson value := by
  cases extension with
  | same => rfl
  | union known inside =>
      simp only [List.mem_cons, Prod.mk.injEq, List.not_mem_nil, or_false] at known
      obtain ⟨rfl, rfl⟩ := known
      exact congrArg₂ StructFields.plain (inside.ids_eq rfl) (inside.flag_eq rfl)

theorem VariantFields.ofJson_extension
    (extension : Extends (.union [("struct", Shape.namedFields)]) value other) :
    VariantFields.ofJson other = VariantFields.ofJson value := by
  cases extension with
  | same => rfl
  | union known inside =>
      simp only [List.mem_cons, Prod.mk.injEq, List.not_mem_nil, or_false] at known
      obtain ⟨rfl, rfl⟩ := known
      exact congrArg₂ VariantFields.struct (inside.ids_eq rfl) (inside.flag_eq rfl)

theorem Discriminant.ofJson_extension
    (extension : Extends (.record (wholes ["expr", "value"])) value other) :
    Discriminant.ofJson other = Discriminant.ofJson value :=
  congrArg₂ Discriminant.mk (extension.string?_eq rfl) (extension.string?_eq rfl)

theorem ConstantExpression.ofJson_extension {fields : List (String × Shape)}
    (extension : Extends (.record fields) value other)
    (known : ["expr", "value", "is_literal"].all (Shape.takesWhole fields)) :
    ConstantExpression.ofJson other = ConstantExpression.ofJson value := by
  simp only [List.all_cons, List.all_nil, Bool.and_true, Bool.and_eq_true] at known
  refine (ConstantExpression.mk.injEq ..).mpr
    ⟨extension.string?_eq ?_, extension.string?_eq ?_, extension.flag_eq ?_⟩
  all_goals simp [known]

theorem UseBody.ofJson_extension (extension : Extends Shape.reexport value other) :
    UseBody.ofJson other = UseBody.ofJson value := by
  refine (UseBody.mk.injEq ..).mpr
    ⟨extension.string_eq rfl, extension.string?_eq rfl, ?_, extension.flag_eq rfl⟩
  rw [extension.field_eq _ rfl]

theorem TypeAliasBody.ofJson_extension (extension : Extends Shape.typeAlias value other) :
    TypeAliasBody.ofJson other = TypeAliasBody.ofJson value :=
  congrArg₂ TypeAliasBody.mk (extension.generics_eq rfl) (extension.type?_eq rfl)

theorem AssociatedTypeBody.ofJson_extension
    (extension : Extends (.record [("generics", Shape.generics), ("bounds", .list (.part .bound)),
      ("type", .part .type), ("default", .part .type)]) value other) :
    AssociatedTypeBody.ofJson other = AssociatedTypeBody.ofJson value := by
  have inType : Extends (.part .type) (value.either "type" "default")
      (other.either "type" "default") := extension.either rfl rfl
  refine (AssociatedTypeBody.mk.injEq ..).mpr
    ⟨extension.generics_eq rfl, extension.bounds_eq rfl, ?_⟩
  split
  · next isNull => rw [inType.eq_null_iff.mp isNull]
  · next present =>
      split
      · next isNull => exact absurd (inType.eq_null_iff.mpr isNull) present
      · exact congrArg some (TypePart.agrees_of_extends .type _ _ inType)

theorem ItemBody.ofJson_extension (extension : Extends (.union Shape.bodyPayloads) value other) :
    ItemBody.ofJson other = ItemBody.ofJson value := by
  cases extension with
  | same => rfl
  | @union _ tag shape payload inner known inside =>
      simp only [Shape.bodyPayloads, List.mem_cons, Prod.mk.injEq, List.not_mem_nil, or_false]
        at known
      rcases known with ⟨rfl, rfl⟩ | ⟨rfl, rfl⟩ | ⟨rfl, rfl⟩ | ⟨rfl, rfl⟩ | ⟨rfl, rfl⟩ |
        ⟨rfl, rfl⟩ | ⟨rfl, rfl⟩ | ⟨rfl, rfl⟩ | ⟨rfl, rfl⟩ | ⟨rfl, rfl⟩ | ⟨rfl, rfl⟩ | ⟨rfl, rfl⟩ |
        ⟨rfl, rfl⟩ | ⟨rfl, rfl⟩ | ⟨rfl, rfl⟩ | ⟨rfl, rfl⟩ | ⟨rfl, rfl⟩
      · exact congrArg ItemBody.field (TypePart.agrees_of_extends .type _ _ inside)
      · exact congrArg ItemBody.module ((ModuleBody.mk.injEq ..).mpr
          ⟨inside.ids_eq rfl, inside.flag_eq rfl, inside.flag_eq rfl⟩)
      · exact congrArg ItemBody.struct ((StructBody.mk.injEq ..).mpr
          ⟨StructFields.ofJson_extension (inside.field _ rfl), inside.generics_eq rfl,
            inside.ids_eq rfl⟩)
      · exact congrArg ItemBody.union ((UnionBody.mk.injEq ..).mpr
          ⟨inside.generics_eq rfl, inside.ids_eq rfl, inside.flag_eq rfl, inside.ids_eq rfl⟩)
      · exact congrArg ItemBody.enum ((EnumBody.mk.injEq ..).mpr
          ⟨inside.generics_eq rfl, inside.ids_eq rfl, inside.flag_eq rfl, inside.ids_eq rfl⟩)
      · have inDiscriminant := inside.field "discriminant" rfl
        refine congrArg ItemBody.variant ((VariantBody.mk.injEq ..).mpr
          ⟨VariantFields.ofJson_extension (inside.field _ rfl), ?_⟩)
        rw [inDiscriminant.isObject_eq, Discriminant.ofJson_extension inDiscriminant]
      · exact congrArg ItemBody.function ((FunctionBody.mk.injEq ..).mpr
          ⟨TypePart.agrees_of_extends .signature _ _ (inside.either rfl rfl),
            inside.generics_eq rfl, FunctionHeader.ofJson_extension (inside.field _ rfl),
            inside.flag_eq rfl⟩)
      · exact congrArg ItemBody.trait ((TraitBody.mk.injEq ..).mpr
          ⟨inside.generics_eq rfl, inside.bounds_eq rfl, inside.ids_eq rfl, inside.ids_eq rfl,
            inside.flag_eq rfl, inside.flag_eq rfl, inside.flag_eq rfl⟩)
      · exact congrArg ItemBody.implementation ((ImplementationBody.mk.injEq ..).mpr
          ⟨inside.generics_eq rfl,
            map_eq_of_rel (inside.given? rfl) fun part outer _ =>
              TypePart.agrees_of_extends .path part outer,
            inside.type_eq rfl, inside.ids_eq rfl, inside.flag_eq rfl, inside.flag_eq rfl,
            inside.flag_eq rfl, inside.type?_eq rfl⟩)
      · exact congrArg ItemBody.reexport (UseBody.ofJson_extension inside)
      · exact congrArg ItemBody.reexport (UseBody.ofJson_extension inside)
      · exact congrArg ItemBody.typeAlias (TypeAliasBody.ofJson_extension inside)
      · exact congrArg ItemBody.typeAlias (TypeAliasBody.ofJson_extension inside)
      · have inConstant := inside.field "const" rfl
        refine congrArg ItemBody.constant ((ConstantBody.mk.injEq ..).mpr
          ⟨inside.type_eq rfl, ?_⟩)
        rw [inConstant.isObject_eq, ConstantExpression.ofJson_extension inConstant rfl,
          ConstantExpression.ofJson_extension inside rfl, inside.get?_eq rfl, inside.get?_eq rfl]
      · exact congrArg ItemBody.static ((StaticBody.mk.injEq ..).mpr
          ⟨inside.type_eq rfl, inside.flag_eq rfl, inside.flag_eq rfl, inside.string?_eq rfl⟩)
      · exact congrArg ItemBody.associatedConstant ((AssociatedConstantBody.mk.injEq ..).mpr
          ⟨inside.type_eq rfl, inside.string?_eq rfl⟩)
      · exact congrArg ItemBody.associatedType (AssociatedTypeBody.ofJson_extension inside)

end Bodies

/-! ### Items -/

section Items

variable {value other : Json String}

theorem Visibility.ofJson_extension
    (extension : Extends (.union [("restricted", .record (wholes ["parent", "path"]))]) value
      other) : Visibility.ofJson other = Visibility.ofJson value := by
  cases extension with
  | same => rfl
  | @union _ tag shape payload inner known inside =>
      simp only [List.mem_cons, Prod.mk.injEq, List.not_mem_nil, or_false] at known
      obtain ⟨rfl, rfl⟩ := known
      have parent := inside.field_eq "parent" rfl
      exact congrArg₂ Visibility.restricted (congrArg Json.id? parent) (inside.string?_eq rfl)

theorem Span.ofJson?_extension
    (extension : Extends (.record (wholes ["filename", "begin", "end"])) value other) :
    Span.ofJson? other = Span.ofJson? value := by
  have start := extension.field_eq "begin" rfl
  have stop := extension.field_eq "end" rfl
  unfold Span.ofJson?
  rw [extension.isObject_eq, extension.string_eq rfl, start, stop]

theorem Deprecation.ofJson_extension
    (extension : Extends (.record (wholes ["since", "note"])) value other) :
    Deprecation.ofJson other = Deprecation.ofJson value :=
  congrArg₂ Deprecation.mk (extension.string?_eq rfl) (extension.string?_eq rfl)

theorem Item.ofFields_extension (extension : Extends Shape.item value other) :
    Item.ofFields other = Item.ofFields value := by
  have id := extension.field_eq "id" rfl
  have attributes := extension.field_eq "attrs" rfl
  have links := extension.field_eq "links" rfl
  have inDeprecation := extension.field "deprecation" rfl
  refine (Item.mk.injEq ..).mpr
    ⟨congrArg Json.id? id, extension.string?_eq rfl,
      Visibility.ofJson_extension (extension.field _ rfl), congrArg Json.items attributes,
      ItemBody.ofJson_extension (extension.field _ rfl), extension.wholeNumber_eq rfl,
      extension.string?_eq rfl, Span.ofJson?_extension (extension.field _ rfl), ?_,
      congrArg Item.linksOfJson links⟩
  rw [inDeprecation.isObject_eq, Deprecation.ofJson_extension inDeprecation]

/-! ### Documents -/

theorem ItemSummary.ofJson_extension (extension : Extends Shape.summary value other) :
    ItemSummary.ofJson other = ItemSummary.ofJson value := by
  refine (ItemSummary.mk.injEq ..).mpr
    ⟨extension.strings_eq rfl, ?_, extension.wholeNumber_eq rfl⟩
  rw [extension.get?_eq rfl]

theorem ExternalCrate.ofJson_extension (extension : Extends Shape.externalCrate value other) :
    ExternalCrate.ofJson other = ExternalCrate.ofJson value :=
  congrArg₂ ExternalCrate.mk (extension.string_eq rfl) (extension.string?_eq rfl)

end Items

theorem ExtendsEntries.refl (shape : Shape) (entries : Json.Record String) :
    ExtendsEntries shape entries entries := by
  induction entries with
  | nil => exact .nil shape
  | cons entry rest induction => exact .cons entry.1 (.same shape entry.2) induction

theorem Extends.entries {shape : Shape} {value other : Json String}
    (extension : Extends (.table shape) value other) :
    ExtendsEntries shape value.record other.record := by
  cases extension with
  | same => exact .refl shape _
  | table inside => exact inside

/-- What is read from the entries one by one does not change if it does not for any of them. -/
theorem ExtendsEntries.filterMap_eq {Read : Type} {shape : Shape}
    {entries others : Json.Record String} (extension : ExtendsEntries shape entries others)
    {read : String × Json String → Option Read}
    (each : ∀ key value other, Extends shape value other → read (key, other) = read (key, value)) :
    others.filterMap read = entries.filterMap read := by
  induction entries generalizing others with
  | nil =>
      cases extension
      rfl
  | cons entry rest induction =>
      cases extension with
      | cons key first remaining =>
          rw [List.filterMap_cons, List.filterMap_cons, each key _ _ first, induction remaining]

theorem ExtendsEntries.map_eq {Read : Type} {shape : Shape} {entries others : Json.Record String}
    (extension : ExtendsEntries shape entries others) {read : String × Json String → Read}
    (each : ∀ key value other, Extends shape value other → read (key, other) = read (key, value)) :
    others.map read = entries.map read := by
  rw [← List.filterMap_eq_map]
  exact extension.filterMap_eq fun key value other extension =>
    congrArg some (each key value other extension)

theorem Crate.ofFields_extension {document extended : Json String}
    (extension : Extends Shape.document document extended) (root : ItemId) :
    Crate.ofFields root extended = Crate.ofFields root document := by
  have inIndex := extension.field "index" rfl
  have inPaths := extension.field "paths" rfl
  have inCrates := extension.field "external_crates" rfl
  have version := extension.field_eq "crate_version" rfl
  refine (Crate.mk.injEq ..).mpr
    ⟨rfl, congrArg Json.text? version, congrArg Table.ofEntries ?_, congrArg Table.ofEntries ?_,
      congrArg Table.ofEntries ?_, extension.wholeNumber_eq rfl, extension.flag_eq rfl⟩
  · refine inIndex.entries.map_eq fun key value other extension => ?_
    dsimp only
    rw [extension.isObject_eq, Item.ofFields_extension extension]
  · refine inPaths.entries.map_eq fun key value other extension => ?_
    dsimp only
    rw [ItemSummary.ofJson_extension extension]
  · refine inCrates.entries.filterMap_eq fun key value other extension => ?_
    dsimp only
    rw [extension.isObject_eq, ExternalCrate.ofJson_extension extension]

/-- A document and an extension of it by fields that nothing looks up give the same crate, or fail
for the same reason. -/
theorem Crate.ofJson_eq_of_extends {document extended : Json String}
    (extension : Extends Shape.document document extended) :
    Crate.ofJson extended = Crate.ofJson document := by
  unfold Crate.ofJson
  rw [extension.isObject_eq, extension.kind_eq, extension.get?_eq rfl]
  simp only [Crate.ofFields_extension extension]

/-- A document with one field, of a borrowed type, and further entries at each of its records. -/
def borrowedField (inPath inBorrow inItem inDocument : Json.Record String) : Json String :=
  let path := .obj (("path", .str "Text") :: inPath)
  let borrow := .obj (("type", .obj [("resolved_path", path)]) :: inBorrow)
  let body := .obj [("struct_field", .obj [("borrowed_ref", borrow)])]
  let item := .obj (("id", .int 0) :: ("inner", body) :: inItem)
  .obj (("root", .int 0) :: ("index", .obj [("0", item)]) :: inDocument)

def grownField : Json String :=
  borrowedField [("span", .arr [])] [("is_pinned", .bool true)]
    [("stability", .obj [("level", .str "stable")])] [("target", .null)]

theorem extends_grownField : Extends Shape.document (borrowedField [] [] [] []) grownField := by
  have inPath : Extends (.part .path) (.obj [("path", .str "Text")])
      (.obj [("path", .str "Text"), ("span", .arr [])]) :=
    .part (.record (.keep (.same _ _) (.insert _ (by decide) (.nil _))))
  have inType : Extends (.part .type) (.obj [("resolved_path", _)])
      (.obj [("resolved_path", _)]) := .part (.union List.mem_cons_self inPath)
  have inBorrow : Extends
      (.record (("type", .part .type) :: wholes ["is_mutable", "mutable", "lifetime"]))
      (.obj [("type", _)]) (.obj [("type", _), ("is_pinned", .bool true)]) :=
    .record (.keep inType (.insert _ (by decide) (.nil _)))
  have inField : Extends (.part .type) (.obj [("borrowed_ref", _)])
      (.obj [("borrowed_ref", _)]) := .part (.union (by simp [typePayloads]) inBorrow)
  have inItem : Extends Shape.item (.obj [("id", .int 0), ("inner", .obj [("struct_field", _)])])
      (.obj [("id", .int 0), ("inner", .obj [("struct_field", _)]),
        ("stability", .obj [("level", .str "stable")])]) :=
    .record (.keep (.same _ _) (.keep (.union List.mem_cons_self inField)
      (.insert _ (by decide) (.nil _))))
  exact .record (.keep (.same _ _) (.keep (.table (.cons _ inItem (.nil _)))
    (.insert _ (by decide) (.nil _))))

theorem Crate.ofJson_grownField :
    Extends Shape.document (borrowedField [] [] [] []) grownField ∧
      Crate.ofJson grownField = Crate.ofJson (borrowedField [] [] [] []) :=
  ⟨extends_grownField, Crate.ofJson_eq_of_extends extends_grownField⟩

end CrateGraph
